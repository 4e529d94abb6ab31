import SessionBridge.Proofs.Session.Stretch

/-! The history of a session, cut into stretches: an accepted connect opens one, the next accepted
failure or disconnect closes it, and everything else that happens meanwhile belongs to it. The open
stretch accounts for the state, and every stretch for the sessions established in it. -/
namespace SessionBridge

/-- A history up to now: the stretches that are over, and the one that is open. -/
structure Chronicle where
  closed : List Stretch
  current : Option Stretch

namespace Chronicle

def empty : Chronicle := ⟨[], none⟩

def all (c : Chronicle) : List Stretch :=
  c.closed ++ c.current.toList

def record (c : Chronicle) (o : Occurrence) : Chronicle :=
  match o.accepted, o.event, c.current with
  | true, .connect mode sessionName handle, _ => ⟨c.all, some ⟨mode, sessionName, handle, []⟩⟩
  | true, .connectFailed _, _ | true, .disconnect, _ => ⟨c.all, none⟩
  | _, _, some s => { c with current := some (s.add o) }
  | _, _, none => c

def ofOccurrences (occurrences : List Occurrence) : Chronicle :=
  occurrences.foldl record empty

def completed (c : Chronicle) : Nat :=
  c.all.countP Stretch.isComplete

def Explains (c : Chronicle) (state : SessionState) : Prop :=
  match c.current with
  | none => state = .disconnected
  | some s => ∃ now, state = s.state now

/-- What is kept through a history: the open stretch accounts for the state, and a stretch has
established one session if it is complete and none otherwise. -/
structure Kept (c : Chronicle) (state : SessionState) : Prop where
  explains : c.Explains state
  sessions : ∀ s ∈ c.all, s.sessions.length = s.isComplete.toNat

theorem kept_empty : empty.Kept .disconnected :=
  ⟨rfl, nofun⟩

/-- An occurrence after which the state is `state` keeps the chronicle in order, and one more stretch
is complete if it established a session. -/
structure Takes (c : Chronicle) (o : Occurrence) (state : SessionState) : Prop where
  kept : (c.record o).Kept state
  completed : (c.record o).completed = c.completed + o.materialized?.toList.length

/-! ### Single occurrences -/

variable {c : Chronicle} {s : Stretch} {o : Occurrence} {state state' : SessionState}

theorem countP_complete (s : Stretch) : [s].countP Stretch.isComplete = s.isComplete.toNat := by
  rw [List.countP_singleton]
  cases s.isComplete <;> rfl

theorem Kept.takes_rejected (h : c.Kept state) (hcurrent : c.current = none)
    (hrejected : o.accepted = false) (hmaterialized : o.materialized? = none) :
    c.Takes o state := by
  have hrecord : c.record o = c := by
    unfold record
    rw [hcurrent, hrejected]
  rw [← hrecord] at h
  refine ⟨h, ?_⟩
  rw [hrecord, hmaterialized]
  rfl

theorem Kept.takes_opening (h : c.Kept state) {mode : SessionMode} {sessionName handle : String}
    {now : Timestamp} (hrecord : c.record o = ⟨c.all, some ⟨mode, sessionName, handle, []⟩⟩)
    (hmaterialized : o.materialized? = none) :
    c.Takes o (.connecting ⟨mode, sessionName, handle, none, false, now⟩) := by
  refine ⟨⟨?_, ?_⟩, ?_⟩
  · rw [hrecord]
    exact ⟨now, rfl⟩
  · intro s hs
    rw [hrecord] at hs
    rcases List.mem_append.mp hs with hs | hs
    · exact h.sessions s hs
    · rw [List.mem_singleton.mp hs]
      rfl
  · rw [hrecord, hmaterialized, completed, all, List.countP_append, Option.toList_some,
      countP_complete]
    rfl

theorem Kept.takes_end (h : c.Kept state) (hrecord : c.record o = ⟨c.all, none⟩)
    (hmaterialized : o.materialized? = none) : c.Takes o .disconnected := by
  have hall : Chronicle.all ⟨c.all, none⟩ = c.all := by
    rw [all, Option.toList_none, List.append_nil]
  refine ⟨⟨?_, ?_⟩, ?_⟩
  · rw [hrecord]
    exact rfl
  · rw [hrecord, hall]
    exact h.sessions
  · rw [hrecord, hmaterialized, completed, hall]
    rfl

theorem Kept.takes_addition (h : c.Kept state) (hcurrent : c.current = some s)
    (hextends : s.Extends o state')
    (hstays : o.accepted = false ∨ o.isJoin = true ∨ o.id?.isSome = true) : c.Takes o state' := by
  have hrecord : c.record o = { c with current := some (s.add o) } := by
    obtain ⟨e, answer⟩ := o
    unfold record
    rw [hcurrent]
    rcases hstays with hrejected | hjoin | hid
    · rw [hrejected]
    -- An accepted connect, failure or disconnect would cut the history here.
    · cases e with
      | participantJoined => cases answer <;> rfl
      | _ => cases hjoin
    · cases e with
      | nativeAccepted id => cases answer <;> rfl
      | _ => cases hid
  refine ⟨⟨?_, ?_⟩, ?_⟩
  · rw [hrecord]
    exact hextends.state
  · intro s' hs
    rw [hrecord] at hs
    rcases List.mem_append.mp hs with hs | hs
    · exact h.sessions s' (List.mem_append_left _ hs)
    · have hbefore := h.sessions s (List.mem_append_right _ (by rw [hcurrent]; exact .head _))
      rw [List.mem_singleton.mp hs, Stretch.sessions_add, List.length_append, hbefore, Nat.add_comm]
      exact hextends.sessions
  · have hsessions := hextends.sessions
    rw [hrecord]
    unfold completed all
    rw [hcurrent, List.countP_append, List.countP_append, Option.toList_some, Option.toList_some,
      countP_complete, countP_complete]
    dsimp only
    omega

/-! ### Single events -/

theorem Kept.takes_idle (h : c.Kept .disconnected) (hcurrent : c.current = none) (now : Timestamp)
    (e : SessionEvent) :
    c.Takes (SessionState.disconnected.meet now e) (SessionState.disconnected.after now e) := by
  cases e with
  | connect mode sessionName handle => exact h.takes_opening rfl rfl
  | nativeAccepted id => exact h.takes_rejected hcurrent rfl rfl
  | connectFailed reason => exact h.takes_rejected hcurrent rfl rfl
  | participantJoined => exact h.takes_rejected hcurrent rfl rfl
  | disconnect => exact h.takes_rejected hcurrent rfl rfl

theorem Kept.takes_active {t : Timestamp} (h : c.Kept (s.state t)) (hcurrent : c.current = some s)
    (now : Timestamp) (e : SessionEvent) :
    c.Takes ((s.state t).meet now e) ((s.state t).after now e) := by
  cases e with
  | connect mode sessionName handle =>
    obtain ⟨hrejected, hextends⟩ := s.extends_connect t now mode sessionName handle
    exact h.takes_addition hcurrent hextends (.inl hrejected)
  | nativeAccepted id =>
    exact h.takes_addition hcurrent (s.extends_nativeAccepted t now id) (.inr (.inr rfl))
  | participantJoined =>
    exact h.takes_addition hcurrent (s.extends_participantJoined t now) (.inr (.inl rfl))
  | connectFailed reason =>
    rcases s.ends_or_extends_connectFailed t now reason with hended | ⟨hrejected, hextends⟩
    · obtain ⟨haccepted, hmaterialized, hafter⟩ := SessionState.meet_accepted hended
      rw [hafter]
      refine h.takes_end ?_ hmaterialized
      unfold record
      rw [haccepted]
      rfl
    · exact h.takes_addition hcurrent hextends (.inl hrejected)
  | disconnect =>
    obtain ⟨haccepted, hmaterialized, hafter⟩ :=
      SessionState.meet_accepted (s.ends_disconnect t now)
    rw [hafter]
    refine h.takes_end ?_ hmaterialized
    unfold record
    rw [haccepted]
    rfl

theorem Kept.takes (h : c.Kept state) (now : Timestamp) (e : SessionEvent) :
    c.Takes (state.meet now e) (state.after now e) := by
  have hexplains := h.explains
  unfold Explains at hexplains
  rcases hcurrent : c.current with _ | s
  · rw [hcurrent] at hexplains
    subst hexplains
    exact h.takes_idle hcurrent now e
  · rw [hcurrent] at hexplains
    obtain ⟨t, rfl⟩ := hexplains
    exact h.takes_active hcurrent now e

/-! ### What the open stretch says about the session -/

theorem Explains.session (h : c.Explains state) {session : Session}
    (hsession : state.session? = some session) :
    state = .established session ∧ ∃ a, c.current = some a ∧ session.mode = a.mode ∧
      session.name = a.sessionName ∧ session.handle = a.handle ∧ a.joined = true ∧
        a.firstId? = some session.id := by
  unfold Explains at h
  rcases hcurrent : c.current with _ | a
  · rw [hcurrent] at h
    rw [show state = .disconnected from h] at hsession
    cases hsession
  · rw [hcurrent] at h
    obtain ⟨t, rfl⟩ := h
    rcases a.isComplete_cases with hwaiting | ⟨id, hid, hjoined⟩
    · rw [Stretch.state_of_waiting hwaiting] at hsession
      cases hsession
    · rw [Stretch.state_of_complete hid hjoined] at hsession ⊢
      rw [SessionState.session?_established] at hsession
      cases hsession
      exact ⟨rfl, a, rfl, rfl, rfl, rfl, hjoined, hid⟩

theorem Explains.session_iff (h : c.Explains state) :
    (∃ session, state.session? = some session) ↔
      ∃ a, c.current = some a ∧ a.firstId?.isSome = true ∧ a.joined = true := by
  constructor
  · rintro ⟨session, hsession⟩
    obtain ⟨-, a, hcurrent, -, -, -, hjoined, hid⟩ := h.session hsession
    refine ⟨a, hcurrent, ?_, hjoined⟩
    rw [hid]
    rfl
  · rintro ⟨a, hcurrent, hid, hjoined⟩
    obtain ⟨id, hid⟩ := Option.isSome_iff_exists.mp hid
    unfold Explains at h
    rw [hcurrent] at h
    obtain ⟨t, rfl⟩ := h
    rw [Stretch.state_of_complete hid hjoined]
    exact ⟨_, SessionState.session?_established _⟩

end Chronicle

end SessionBridge
