import SessionBridge.Proofs.Bridge.Steps
import SessionBridge.Proofs.Registry.Order

/-! What a bridge makes of callbacks, read off the callbacks themselves: whom they enter into the
registry, and whether any of them gets through to the session. -/
namespace SessionBridge

def Callback.participant? : Callback → Option String
  | .participant true name =>
    (name.decode EntryPoint.participant.name EntryPoint.participant.argument).toOption
  | _ => none

def Callback.reports (now : Timestamp) (calls : List Callback) : List Participant :=
  (calls.filterMap Callback.participant?).map fun name => ⟨name, now⟩

theorem Callback.reports_append (now : Timestamp) (first second : List Callback) :
    reports now (first ++ second) = reports now first ++ reports now second := by
  unfold reports
  rw [List.filterMap_append, List.map_append]

namespace SessionState

variable {now : Timestamp} {s s' : SessionState}

theorem joined_established (now : Timestamp) (session : Session) :
    (established session).after now .participantJoined = established session := by
  unfold established
  split <;> rfl

theorem after_joined_joined (now : Timestamp) (s : SessionState) :
    (s.after now .participantJoined).after now .participantJoined = s.after now .participantJoined := by
  cases s with
  | disconnected => rfl
  | owner s => rfl
  | joined s => rfl
  | connecting a =>
    rcases hid : a.sessionId with _ | id
    · simp [after, next?, hid]
    · have hjoin : (connecting a).after now .participantJoined =
          established (a.establish id now) := by simp [after, next?, hid]
      rw [hjoin, joined_established]

theorem canSend_of_joined (h : s.next? now .participantJoined = some (s', none)) :
    s'.canSend = s.canSend := by
  cases s with
  | disconnected => cases h
  | owner s => cases h; rfl
  | joined s => cases h; rfl
  | connecting a =>
    rcases hid : a.sessionId with _ | id
    all_goals simp only [next?, hid] at h
    all_goals cases h
    rfl

theorem canSend_of_established {session : Session}
    (h : s.next? now .participantJoined = some (s', some session)) : s.canSend = false := by
  cases s with
  | disconnected => rfl
  | connecting a => rfl
  | owner s => cases h
  | joined s => cases h

end SessionState

namespace Bridge

variable {b : Bridge}

/-! ### Single callbacks -/

theorem receive_participant {call : Callback} {name : String} (h : call.participant? = some name)
    (b : Bridge) : b.receive call = b.deliverParticipant name := by
  rcases call with _ | ⟨_ | _, text⟩
  · cases h
  · cases h
  · unfold Callback.participant? at h
    unfold receive receiveText
    dsimp only at h ⊢
    rcases hdecode : text.decode EntryPoint.participant.name EntryPoint.participant.argument with
      fault | s
    all_goals rw [hdecode] at h
    · cases h
    · cases h
      rfl

theorem receive_other {call : Callback} (h : call.participant? = none) (b : Bridge) :
    ∃ journal shown, b.receive call = { b with journal, shown } := by
  rcases call with ⟨_ | _, text, code⟩ | ⟨_ | _, text⟩
  · exact ⟨_, _, rfl⟩
  · unfold receive receiveText
    dsimp only
    split
    · exact ⟨_, _, rfl⟩
    · exact b.deliverMessage_eq _ code
  · exact ⟨_, _, rfl⟩
  · unfold Callback.participant? at h
    unfold receive receiveText
    dsimp only at h ⊢
    rcases hdecode : text.decode EntryPoint.participant.name EntryPoint.participant.argument with
      fault | s
    all_goals rw [hdecode] at h
    · exact ⟨_, _, rfl⟩
    · cases h

theorem registry_advance (b : Bridge) (e : SessionEvent) : (b.advance e).registry = b.registry := by
  have hadvances := b.advance_advances e
  generalize b.advance e = b' at hadvances
  cases hadvances <;> rfl

theorem registry_deliverParticipant (b : Bridge) (name : String) :
    (b.deliverParticipant name).registry = (b.registry.register name b.clock).2 := by
  cases hknown : b.registry.contains name with
  | true =>
    rw [deliverParticipant_known hknown, registry_advance,
      Registry.register_known (p := ⟨name, b.clock⟩) hknown]
  | false =>
    rw [Registry.register_new (p := ⟨name, b.clock⟩) hknown]
    obtain ⟨journal, shown, hafter⟩ := (b.enroll ⟨name, b.clock⟩).showParticipant_eq ⟨name, b.clock⟩
    rcases hshow : (b.enroll ⟨name, b.clock⟩).showParticipant ⟨name, b.clock⟩ with
      ⟨_ | crash, after⟩
    all_goals
      rw [hshow] at hafter
      dsimp only at hafter
    · rw [deliverParticipant_shown hknown hshow, registry_advance, hafter]
      rfl
    · rw [deliverParticipant_crashed hknown hshow, hafter]
      rfl

/-- The reading of the clock and the handlers, which callbacks only look at. -/
theorem steady_surroundings (now : Timestamp) (handlers : Option Handlers) :
    Steady fun b => b.clock = now ∧ b.handlers = handlers where
  record _ _ _ _ _ h := h
  showed _ _ h := h
  enroll _ _ _ h := h
  join b h := by
    have hadvances := b.advance_advances .participantJoined
    generalize b.advance .participantJoined = b' at hadvances
    cases hadvances <;> exact h

theorem clock_receive (b : Bridge) (call : Callback) : (b.receive call).clock = b.clock :=
  ((steady_surroundings b.clock b.handlers).receive call ⟨rfl, rfl⟩).1

theorem handlers_receive (b : Bridge) (call : Callback) : (b.receive call).handlers = b.handlers :=
  ((steady_surroundings b.clock b.handlers).receive call ⟨rfl, rfl⟩).2

theorem clock_callbacks (b : Bridge) (calls : List Callback) :
    (calls.foldl receive b).clock = b.clock :=
  ((steady_surroundings b.clock b.handlers).callbacks calls ⟨rfl, rfl⟩).1

theorem handlers_callbacks (b : Bridge) (calls : List Callback) :
    (calls.foldl receive b).handlers = b.handlers :=
  ((steady_surroundings b.clock b.handlers).callbacks calls ⟨rfl, rfl⟩).2

theorem registry_callbacks (b : Bridge) (calls : List Callback) :
    (calls.foldl receive b).registry =
      (b.registry.registerAll (Callback.reports b.clock calls)).2 := by
  induction calls generalizing b with
  | nil => rfl
  | cons call calls ih =>
    rw [List.foldl_cons, ih, clock_receive]
    unfold Callback.reports
    rcases hname : call.participant? with _ | name
    · obtain ⟨journal, shown, hreceive⟩ := receive_other hname b
      rw [List.filterMap_cons_none hname, hreceive]
    · rw [List.filterMap_cons_some hname, List.map_cons, Registry.registerAll_cons,
        receive_participant hname, registry_deliverParticipant]

theorem keeps_callbacks {P : SessionState → Prop} (hP : SessionState.KeptByJoins P)
    (calls : List Callback) (h : P b.state) : P (calls.foldl receive b).state := by
  induction calls generalizing b with
  | nil => exact h
  | cons call calls ih => exact ih (keeps_receive hP call h)

/-! ### Getting through to the session -/

def crashesOn (b : Bridge) (p : Participant) : Bool :=
  (b.handlers.bind fun h => (h.onParticipant p).crash).isSome

/-- Whether a callback gets through to the session: it reports somebody who is known, or whom the
handler takes without a crash. -/
def reaches (b : Bridge) (call : Callback) : Bool :=
  match call.participant? with
  | some name => b.registry.contains name || !b.crashesOn ⟨name, b.clock⟩
  | none => false

def tells (b : Bridge) : List Callback → Bool
  | [] => false
  | call :: calls => b.reaches call || (b.receive call).tells calls

theorem crash_shown (b : Bridge) (p : Participant) :
    (b.showParticipant p).1.isSome = b.crashesOn p := by
  unfold showParticipant crashesOn
  rcases b.handlers with _ | h <;> rfl

theorem state_deliverParticipant_eq (b : Bridge) (name : String) :
    (b.deliverParticipant name).state =
      if b.registry.contains name || !b.crashesOn ⟨name, b.clock⟩ then
        b.state.after b.clock .participantJoined
      else b.state := by
  cases hknown : b.registry.contains name with
  | true =>
    rw [deliverParticipant_known hknown, state_advance]
    rfl
  | false =>
    have hcrash : _ = b.crashesOn _ := crash_shown (b.enroll ⟨name, b.clock⟩) ⟨name, b.clock⟩
    obtain ⟨journal, shown, hafter⟩ := (b.enroll ⟨name, b.clock⟩).showParticipant_eq ⟨name, b.clock⟩
    rcases hshow : (b.enroll ⟨name, b.clock⟩).showParticipant ⟨name, b.clock⟩ with
      ⟨_ | crash, after⟩
    all_goals
      rw [hshow] at hafter hcrash
      dsimp only at hafter
    · rw [← hcrash, deliverParticipant_shown hknown hshow, state_advance, hafter]
      rfl
    · rw [← hcrash, deliverParticipant_crashed hknown hshow, hafter]
      rfl

theorem state_receive_eq (b : Bridge) (call : Callback) :
    (b.receive call).state =
      if b.reaches call then b.state.after b.clock .participantJoined else b.state := by
  unfold reaches
  rcases hname : call.participant? with _ | name
  · obtain ⟨journal, shown, hreceive⟩ := receive_other hname b
    rw [hreceive]
    rfl
  · rw [receive_participant hname]
    exact b.state_deliverParticipant_eq name

theorem tells_congr {b b' : Bridge} (hregistry : b'.registry = b.registry)
    (hhandlers : b'.handlers = b.handlers) (hclock : b'.clock = b.clock) (calls : List Callback) :
    b'.tells calls = b.tells calls := by
  induction calls generalizing b b' with
  | nil => rfl
  | cons call calls ih =>
    have hreaches : b'.reaches call = b.reaches call := by
      unfold reaches crashesOn
      rw [hregistry, hhandlers, hclock]
    have hregistry' : (b'.receive call).registry = (b.receive call).registry := by
      have hone := b'.registry_callbacks [call]
      rw [hregistry, hclock, ← b.registry_callbacks [call]] at hone
      exact hone
    rw [tells, tells, hreaches, ih hregistry' _ _]
    · rw [handlers_receive, handlers_receive, hhandlers]
    · rw [clock_receive, clock_receive, hclock]

theorem tells_append (b : Bridge) (first second : List Callback) :
    b.tells (first ++ second) = (b.tells first || (first.foldl receive b).tells second) := by
  induction first generalizing b with
  | nil => rfl
  | cons call first ih => rw [List.cons_append, tells, tells, ih, List.foldl_cons, Bool.or_assoc]

theorem tells_eq_false {calls : List Callback} (h : ∀ call ∈ calls, call.participant? = none) :
    b.tells calls = false := by
  induction calls generalizing b with
  | nil => rfl
  | cons call calls ih =>
    have hfirst : b.reaches call = false := by
      unfold reaches
      rw [h call List.mem_cons_self]
    rw [tells, hfirst, ih fun other hmem => h other (List.mem_cons_of_mem call hmem)]
    rfl

theorem tells_of_harmless (h : ∀ p, b.crashesOn p = false) (calls : List Callback) :
    b.tells calls = calls.any (·.participant?.isSome) := by
  induction calls generalizing b with
  | nil => rfl
  | cons call calls ih =>
    have hfirst : b.reaches call = call.participant?.isSome := by
      unfold reaches
      rcases call.participant? with _ | name
      · rfl
      · simp [h]
    have hrest : ∀ p, (b.receive call).crashesOn p = false := by
      intro p
      unfold crashesOn
      rw [handlers_receive]
      exact h p
    rw [tells, hfirst, ih hrest, List.any_cons]

/-- Of all callbacks that get through to the session only the first one moves it. -/
theorem state_callbacks (b : Bridge) (calls : List Callback) :
    (calls.foldl receive b).state =
      if b.tells calls then b.state.after b.clock .participantJoined else b.state := by
  induction calls generalizing b with
  | nil => rfl
  | cons call calls ih =>
    rw [List.foldl_cons, ih, tells, clock_receive, state_receive_eq]
    cases b.reaches call with
    | false => rfl
    | true =>
      -- The rest may get through or not: behind the first join no other one shows.
      rw [Bool.true_or, if_pos rfl, SessionState.after_joined_joined, ite_self]

theorem state_callbacks_connecting {a : Attempt} (hstate : b.state = .connecting a)
    (hid : a.sessionId = none) (calls : List Callback) :
    (calls.foldl receive b).state =
      .connecting { a with joinedEarly := a.joinedEarly || b.tells calls } := by
  rw [state_callbacks, hstate]
  cases b.tells calls with
  | false => simp
  | true => simp [SessionState.after, SessionState.next?, hid]

theorem steady_established (b : Bridge) :
    Steady fun b' => b'.established + b.state.canSend.toNat =
      b.established + b'.state.canSend.toNat where
  record _ _ _ _ _ h := h
  showed _ _ h := h
  enroll _ _ _ h := h
  join b' h := by
    have hadvances := b'.advance_advances .participantJoined
    generalize b'.advance .participantJoined = b'' at hadvances
    cases hadvances with
    | rejected => exact h
    | moved hnext =>
      rw [← SessionState.canSend_of_joined hnext] at h
      exact h
    | @established s hnext =>
      have hbefore := SessionState.canSend_of_established hnext
      have hafter : (SessionState.established s).canSend = true :=
        congrArg Option.isSome (SessionState.session?_established s)
      rw [hbefore] at h
      change b'.established + 1 + b.state.canSend.toNat =
        b.established + (SessionState.established s).canSend.toNat
      rw [hafter, Nat.add_right_comm, h]
      rfl

theorem established_callbacks (b : Bridge) (calls : List Callback) :
    (calls.foldl receive b).established + b.state.canSend.toNat =
      b.established + (calls.foldl receive b).state.canSend.toNat :=
  (steady_established b).callbacks calls rfl

end Bridge

end SessionBridge
