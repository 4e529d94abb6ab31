import Mathlib.Data.Set.Defs
import SessionBridge.Proofs.Bridge.Containment

/-! When the bus accepts an attempt, and who has been delivered by then. An attempt that is accepted early
and one that is accepted late end up alike: both go along with a bridge to which the same is delivered
while it is disconnected, but for the session and the line that reports it. -/
namespace SessionBridge

/-! ### Leaving out times and numbers -/

def Line.untimed (l : Line) : Line :=
  { l with timestamp := ⟨0⟩ }

def Participant.untimed (p : Participant) : Participant :=
  { p with joinedAt := ⟨0⟩ }

def Showing.untimed : Showing → Showing
  | message e => message ⟨e.toLine.untimed, 0⟩
  | participant p => participant p.untimed

def SessionState.untimed : SessionState → SessionState
  | disconnected => disconnected
  | connecting a => connecting { a with startedAt := ⟨0⟩ }
  | owner s => owner { s with establishedAt := ⟨0⟩ }
  | joined s => joined { s with establishedAt := ⟨0⟩ }

namespace SessionState

variable {state : SessionState}

theorem of_untimed_connecting {a : Attempt} (h : state.untimed = connecting a) :
    ∃ now, state = connecting { a with startedAt := now } := by
  cases state with
  | connecting a' =>
    cases h
    exact ⟨a'.startedAt, rfl⟩
  | _ => cases h

theorem untimed_established (s : Session) (now : Timestamp) :
    (established { s with establishedAt := now }).untimed =
      established { s with establishedAt := ⟨0⟩ } := by
  unfold established
  cases s.mode <;> rfl

theorem name_established (s : Session) (now : Timestamp) :
    (established { s with establishedAt := now }).name = (established s).name := by
  unfold established
  cases s.mode <;> rfl

theorem isSome_session?_untimed (state : SessionState) :
    state.untimed.session?.isSome = state.session?.isSome := by
  cases state <;> rfl

theorem next?_joined_of_session (h : state.session?.isSome = true) (now : Timestamp) :
    state.next? now .participantJoined = some (state, none) := by
  cases state with
  | owner s => rfl
  | joined s => rfl
  | _ => cases h

end SessionState

namespace Bridge

def untimedLines (b : Bridge) : List Line :=
  b.lines.map Line.untimed

def untimedShown (b : Bridge) : List Showing :=
  b.shown.toList.map Showing.untimed

variable {b : Bridge}

theorem untimedLines_record (b : Bridge) (origin : Origin) (kind : InformType) (text : String) :
    (b.record origin kind text).untimedLines = b.untimedLines ++ [⟨⟨0⟩, origin, kind, text⟩] := by
  rw [untimedLines, lines_record, List.map_append]
  rfl

theorem untimedShown_showed (b : Bridge) (s : Showing) :
    (b.showed s).untimedShown = b.untimedShown ++ [s.untimed] := by
  simp [untimedShown, showed]

end Bridge

/-! ### A line that moves -/

def Inserted (l : Line) (xs ys : List Line) : Prop :=
  ∃ before after, xs = before ++ after ∧ ys = before ++ l :: after

/-- The two lists differ at most in where a line stands. -/
def Moved (l : Line) (ys ys' : List Line) : Prop :=
  ∃ xs, Inserted l xs ys ∧ Inserted l xs ys'

theorem inserted_end (l : Line) (xs : List Line) : Inserted l xs (xs ++ [l]) :=
  ⟨xs, [], (List.append_nil _).symm, rfl⟩

theorem Inserted.append {l : Line} {xs ys : List Line} (h : Inserted l xs ys) (more : List Line) :
    Inserted l (xs ++ more) (ys ++ more) := by
  obtain ⟨before, after, rfl, rfl⟩ := h
  exact ⟨before, after ++ more, by simp, by simp⟩

/-! ### Handlers that do not crash -/

/-- Handlers that never crash, and whose own messages are the same at any of these times. At a single time
that is no condition on the messages. -/
structure Handlers.Calm (h : Handlers) (times : Set Timestamp) : Prop where
  onMessage : ∀ e, h.onMessage e = none
  onParticipant : ∀ p, (h.onParticipant p).crash = none
  timeless : ∀ name, ∀ now ∈ times, ∀ now' ∈ times,
    (h.onParticipant ⟨name, now⟩).echoes = (h.onParticipant ⟨name, now'⟩).echoes

namespace Bridge

variable {b : Bridge} {times : Set Timestamp}

def Calm (b : Bridge) (times : Set Timestamp) : Prop :=
  ∀ h, b.handlers = some h → h.Calm times

def exhibit (b : Bridge) (s : Showing) : Bridge :=
  if b.isInstalled then b.showed s else b

theorem Calm.crashOn? (h : b.Calm times) (s : Showing) : b.crashOn? s = none := by
  unfold Bridge.crashOn?
  rcases hhandlers : b.handlers with _ | handlers
  · rfl
  · cases s with
    | message e => exact (h handlers hhandlers).onMessage e
    | participant p => exact (h handlers hhandlers).onParticipant p

theorem Calm.deliverMessage (h : b.Calm times) (text : String) (code : Int32) :
    b.deliverMessage text code =
      (b.record .inbound (.ofCode code) text).exhibit (.message (b.inboundEntry text code)) := by
  rw [deliverMessage_record, h.crashOn?]
  rfl

theorem Calm.deliverParticipant (h : b.Calm times) {name : String}
    (hnew : b.registry.contains name = false) :
    b.deliverParticipant name =
      ((b.greeted ⟨name, b.clock⟩).exhibit (.participant ⟨name, b.clock⟩)).advance
        .participantJoined := by
  obtain ⟨journal, shown, hgreeted⟩ := b.greeted_eq ⟨name, b.clock⟩
  have hsame : (b.greeted ⟨name, b.clock⟩).isInstalled = b.isInstalled := by
    rw [hgreeted]
    rfl
  rw [deliverParticipant_greeted hnew, h.crashOn?, exhibit, hsame]
  cases b.isInstalled <;> rfl

/-! ### Attempts and their sessions -/

/-- Where an attempt at the session `s` is that was made when `n` sessions had been established; the lines
without the one that reports it are `xs`. -/
inductive Stands (s : Session) (n : Nat) (xs : List Line) : Bool → Bool → Bridge → Prop where
  | waiting {joined : Bool} {b : Bridge}
      (hstate : b.state.untimed = .connecting ⟨s.mode, s.name, s.handle, none, joined, ⟨0⟩⟩)
      (hcount : b.established = n) (hlines : b.untimedLines = xs) : Stands s n xs false joined b
  | opened {b : Bridge}
      (hstate : b.state.untimed = .connecting ⟨s.mode, s.name, s.handle, some s.id, false, ⟨0⟩⟩)
      (hcount : b.established = n) (hlines : b.untimedLines = xs) : Stands s n xs true false b
  | established {b : Bridge} (hstate : b.state.untimed = .established s)
      (hcount : b.established = n + 1) (hlines : Inserted s.announcement xs b.untimedLines) :
      Stands s n xs true true b

variable {s : Session} {n : Nat} {xs : List Line} {accepted joined : Bool} {b' : Bridge}

theorem Stands.append (h : Stands s n xs accepted joined b) (more : List Line)
    (hstate : b'.state = b.state) (hcount : b'.established = b.established)
    (hlines : b'.untimedLines = b.untimedLines ++ more) :
    Stands s n (xs ++ more) accepted joined b' := by
  have hsame : b'.state.untimed = b.state.untimed := congrArg SessionState.untimed hstate
  cases h with
  | waiting hstate' hcount' hlines' =>
    exact .waiting (hsame.trans hstate') (hcount.trans hcount')
      (hlines.trans (congrArg (· ++ more) hlines'))
  | opened hstate' hcount' hlines' =>
    exact .opened (hsame.trans hstate') (hcount.trans hcount')
      (hlines.trans (congrArg (· ++ more) hlines'))
  | established hstate' hcount' hlines' =>
    refine .established (hsame.trans hstate') (hcount.trans hcount') ?_
    rw [hlines]
    exact hlines'.append more

theorem Stands.unseen (h : Stands s n xs accepted joined b) (hstate : b'.state = b.state)
    (hcount : b'.established = b.established) (hlines : b'.untimedLines = b.untimedLines) :
    Stands s n xs accepted joined b' := by
  have hsame := h.append [] hstate hcount (hlines.trans (List.append_nil _).symm)
  rw [List.append_nil] at hsame
  exact hsame

theorem stands_announced (hs : s.establishedAt = ⟨0⟩) (hcount : b.established = n)
    (hlines : b.untimedLines = xs) (now : Timestamp) :
    let s' : Session := { s with establishedAt := now }
    Stands s n xs true true (({ b with state := .established s' } : Bridge).announceSession s'
      (SessionState.established s').name) := by
  intro s'
  have hzero : ({ s with establishedAt := ⟨0⟩ } : Session) = s := by rw [← hs]
  refine .established ?_ (congrArg (· + 1) hcount) ?_
  · exact (SessionState.untimed_established s now).trans (congrArg SessionState.established hzero)
  · have hrecord := untimedLines_record
      { b with state := .established s', established := b.established + 1 } .system .status
      ("Session " ++ s'.id.text ++ " established as " ++ (SessionState.established s').name)
    have hannouncement : s.announcement = ⟨⟨0⟩, .system, .status,
        "Session " ++ s'.id.text ++ " established as " ++ (SessionState.established s').name⟩ := by
      rw [SessionState.name_established, Session.announcement, hs]
    rw [← hannouncement] at hrecord
    rw [← hlines]
    change Inserted s.announcement b.untimedLines (report _ _ _).untimedLines
    rw [report, hrecord]
    exact inserted_end _ _

theorem Stands.join (h : Stands s n xs accepted joined b) (hs : s.establishedAt = ⟨0⟩) :
    Stands s n xs accepted true (b.advance .participantJoined) := by
  cases h with
  | waiting hstate hcount hlines =>
    obtain ⟨now, hstate⟩ := SessionState.of_untimed_connecting hstate
    unfold advance apply SessionState.transition
    rw [hstate]
    exact .waiting rfl hcount hlines
  | opened hstate hcount hlines =>
    obtain ⟨now, hstate⟩ := SessionState.of_untimed_connecting hstate
    unfold advance apply SessionState.transition
    rw [hstate]
    exact stands_announced hs hcount hlines b.clock
  | established hstate hcount hlines =>
    have hsession : b.state.session?.isSome = true := by
      rw [← SessionState.isSome_session?_untimed, hstate, SessionState.session?_established]
      rfl
    unfold advance apply SessionState.transition
    rw [SessionState.next?_joined_of_session hsession]
    exact .established hstate hcount hlines

theorem Stands.accept (h : Stands s n xs false joined b) (hs : s.establishedAt = ⟨0⟩) :
    Stands s n xs true joined (b.advance (.nativeAccepted s.id)) := by
  cases h with
  | waiting hstate hcount hlines =>
    obtain ⟨now, hstate⟩ := SessionState.of_untimed_connecting hstate
    unfold advance apply SessionState.transition
    rw [hstate]
    cases joined with
    | false => exact .opened rfl hcount hlines
    | true => exact stands_announced hs hcount hlines b.clock

/-! ### Beside a bridge that stays disconnected -/

/-- To the bridge `b`, which makes an attempt at the session `s`, and to `r`, which stays disconnected, the
same has been delivered, at any of these times. -/
structure Follows (times : Set Timestamp) (s : Session) (n : Nat) (accepted joined : Bool)
    (r b : Bridge) : Prop where
  idle : r.state = .disconnected
  calm : r.Calm times
  now : r.clock ∈ times
  now' : b.clock ∈ times
  handlers : b.handlers = r.handlers
  index : b.registry.index = r.registry.index
  names : b.registry.names = r.registry.names
  shown : b.untimedShown = r.untimedShown
  stands : Stands s n r.untimedLines accepted joined b

variable {r : Bridge}

theorem Follows.calm' (h : Follows times s n accepted joined r b) : b.Calm times := by
  intro handlers hhandlers
  exact h.calm handlers (h.handlers.symm.trans hhandlers)

theorem Follows.isInstalled (h : Follows times s n accepted joined r b) :
    b.isInstalled = r.isInstalled :=
  congrArg Option.isSome h.handlers

theorem Follows.tick (h : Follows times s n accepted joined r b) {now : Timestamp}
    (hnow : now ∈ times) : Follows times s n accepted joined r { b with clock := now } :=
  { h with now' := hnow, stands := h.stands.unseen rfl rfl rfl }

theorem Follows.record (h : Follows times s n accepted joined r b) (origin : Origin)
    (kind : InformType) (text : String) :
    Follows times s n accepted joined (r.record origin kind text) (b.record origin kind text) :=
  { h with
    stands := by
      rw [untimedLines_record]
      exact h.stands.append _ rfl rfl (untimedLines_record b origin kind text) }

theorem Follows.exhibit (h : Follows times s n accepted joined r b) {shown shown' : Showing}
    (hshown : shown'.untimed = shown.untimed) :
    Follows times s n accepted joined (r.exhibit shown) (b.exhibit shown') := by
  unfold Bridge.exhibit
  rw [h.isInstalled]
  cases r.isInstalled with
  | false => exact h
  | true =>
    refine ⟨h.idle, h.calm, h.now, h.now', h.handlers, h.index, h.names, ?_,
      h.stands.unseen rfl rfl rfl⟩
    change (b.showed shown').untimedShown = (r.showed shown).untimedShown
    rw [untimedShown_showed, untimedShown_showed, h.shown, hshown]

theorem Follows.enroll (h : Follows times s n accepted joined r b) (name : String) :
    Follows times s n accepted joined (r.enroll ⟨name, r.clock⟩) (b.enroll ⟨name, b.clock⟩) := by
  have hsize : b.registry.order.size = r.registry.order.size := by
    have hlength := congrArg List.length h.names
    rw [Registry.length_names, Registry.length_names] at hlength
    exact hlength
  have hreported := h.record .system .status (name ++ " joined")
  refine ⟨h.idle, h.calm, h.now, h.now', h.handlers, ?_, ?_, h.shown,
    hreported.stands.unseen rfl rfl rfl⟩
  · change b.registry.index.insert name b.registry.order.size =
      r.registry.index.insert name r.registry.order.size
    rw [h.index, hsize]
  · change (b.registry.insert _).names = (r.registry.insert _).names
    rw [Registry.names_insert, Registry.names_insert, h.names]

theorem advance_joined_idle (hidle : r.state = .disconnected) :
    r.advance .participantJoined = r := by
  unfold advance apply SessionState.transition
  rw [hidle]
  rfl

theorem Follows.advance (h : Follows times s n accepted joined r b) {accepted' joined' : Bool}
    {e : SessionEvent} (hstands : Stands s n r.untimedLines accepted' joined' (b.advance e)) :
    Follows times s n accepted' joined' r (b.advance e) := by
  obtain ⟨journal, state, established, hadvance⟩ := b.advance_eq e
  rw [hadvance] at hstands ⊢
  exact ⟨h.idle, h.calm, h.now, h.now', h.handlers, h.index, h.names, h.shown, hstands⟩

theorem Follows.join (h : Follows times s n accepted joined r b) (hs : s.establishedAt = ⟨0⟩) :
    Follows times s n accepted true (r.advance .participantJoined)
      (b.advance .participantJoined) := by
  rw [advance_joined_idle h.idle]
  exact h.advance (h.stands.join hs)

theorem Follows.accept (h : Follows times s n false joined r b) (hs : s.establishedAt = ⟨0⟩) :
    Follows times s n true joined r (b.advance (.nativeAccepted s.id)) :=
  h.advance (h.stands.accept hs)

/-! ### Deliveries -/

theorem Follows.deliverMessage (h : Follows times s n accepted joined r b) (text : String)
    (code : Int32) :
    Follows times s n accepted joined (r.deliverMessage text code) (b.deliverMessage text code) := by
  rw [h.calm.deliverMessage, h.calm'.deliverMessage]
  exact (h.record .inbound (.ofCode code) text).exhibit rfl

theorem Follows.echo (echoes : List (String × Int32)) (h : Follows times s n accepted joined r b) :
    Follows times s n accepted joined
      (echoes.foldl (fun b echo => b.deliverMessage echo.1 echo.2) r)
      (echoes.foldl (fun b echo => b.deliverMessage echo.1 echo.2) b) := by
  induction echoes generalizing r b with
  | nil => exact h
  | cons echo echoes ih => exact ih (h.deliverMessage echo.1 echo.2)

theorem Follows.ownMessages (h : Follows times s n accepted joined r b) (name : String) :
    b.ownMessages ⟨name, b.clock⟩ = r.ownMessages ⟨name, r.clock⟩ := by
  unfold Bridge.ownMessages
  rw [h.handlers]
  rcases hhandlers : r.handlers with _ | handlers
  · rfl
  · exact (h.calm handlers hhandlers).timeless name b.clock h.now' r.clock h.now

theorem Follows.deliverParticipant (h : Follows times s n accepted joined r b)
    (hs : s.establishedAt = ⟨0⟩) (name : String) :
    Follows times s n accepted true (r.deliverParticipant name) (b.deliverParticipant name) := by
  have hcontains : b.registry.contains name = r.registry.contains name :=
    congrArg (·.contains name) h.index
  cases hknown : r.registry.contains name with
  | true =>
    rw [deliverParticipant_known hknown, deliverParticipant_known (hcontains.trans hknown)]
    exact h.join hs
  | false =>
    rw [h.calm.deliverParticipant hknown, h.calm'.deliverParticipant (hcontains.trans hknown)]
    have hgreeted := (h.enroll name).echo (r.ownMessages ⟨name, r.clock⟩)
    unfold greeted
    rw [h.ownMessages]
    have hshown : (Showing.participant ⟨name, b.clock⟩).untimed =
        (Showing.participant ⟨name, r.clock⟩).untimed := rfl
    exact (hgreeted.exhibit hshown).join hs

theorem Follows.receive (h : Follows times s n accepted joined r b) (hs : s.establishedAt = ⟨0⟩)
    (call : Callback) :
    Follows times s n accepted (joined || call.participant?.isSome) (r.receive call)
      (b.receive call) := by
  rcases hname : call.participant? with _ | name
  · rw [Option.isSome_none, Bool.or_false]
    rcases call with ⟨_ | _, text, code⟩ | ⟨_ | _, text⟩
    · exact h
    · unfold Bridge.receive receiveText
      dsimp only
      split
      · exact h.record .system .error _
      · exact h.deliverMessage _ code
    · exact h
    · unfold Callback.participant? at hname
      unfold Bridge.receive receiveText
      dsimp only at hname ⊢
      split
      · exact h.record .system .error _
      · rename_i hdecode
        rw [hdecode] at hname
        cases hname
  · rw [Option.isSome_some, Bool.or_true, receive_participant hname, receive_participant hname]
    exact h.deliverParticipant hs name

theorem Follows.callbacks (calls : List Callback) (h : Follows times s n accepted joined r b)
    (hs : s.establishedAt = ⟨0⟩) :
    Follows times s n accepted (joined || calls.any (·.participant?.isSome))
      (calls.foldl Bridge.receive r) (calls.foldl Bridge.receive b) := by
  induction calls generalizing r b joined with
  | nil =>
    rw [List.any_nil, Bool.or_false]
    exact h
  | cons call calls ih =>
    rw [List.any_cons, ← Bool.or_assoc]
    exact ih (h.receive hs call)

def hear (b : Bridge) (deliveries : List (Timestamp × Callback)) : Bridge :=
  deliveries.foldl (fun b d => ({ b with clock := d.1 } : Bridge).receive d.2) b

theorem Follows.hear {deliveries : List (Timestamp × Callback)}
    (h : Follows times s n accepted joined r b) (hs : s.establishedAt = ⟨0⟩)
    (hwithin : ∀ d ∈ deliveries, d.1 ∈ times) :
    Follows times s n accepted (joined || (deliveries.map Prod.snd).any (·.participant?.isSome))
      ((deliveries.map Prod.snd).foldl Bridge.receive r) (b.hear deliveries) := by
  induction deliveries generalizing r b joined with
  | nil =>
    rw [List.map_nil, List.any_nil, Bool.or_false]
    exact h
  | cons d deliveries ih =>
    rw [List.map_cons, List.any_cons, ← Bool.or_assoc]
    have hticked := h.tick (hwithin d List.mem_cons_self)
    exact ih (hticked.receive hs d.2) fun d' hmem => hwithin d' (List.mem_cons_of_mem d hmem)

/-! ### Two attempts at the same session -/

/-- The two bridges differ in times, and in where the line stands that reports the session, if it was
established behind `n` others. -/
structure Indistinct (s : Session) (n : Nat) (joined : Bool) (b b' : Bridge) : Prop where
  state : b.state.untimed = b'.state.untimed
  established : b.established = n + joined.toNat ∧ b'.established = n + joined.toNat
  names : b.registry.names = b'.registry.names
  shown : b.untimedShown = b'.untimedShown
  lines : if joined then Moved s.announcement b.untimedLines b'.untimedLines
    else b.untimedLines = b'.untimedLines

theorem Follows.indistinct (h : Follows times s n true joined r b)
    (h' : Follows times s n true joined r b') : Indistinct s n joined b b' := by
  have hnames := h.names.trans h'.names.symm
  have hshown := h.shown.trans h'.shown.symm
  cases h.stands with
  | opened hstate hcount hlines =>
    cases h'.stands with
    | opened hstate' hcount' hlines' =>
      exact ⟨hstate.trans hstate'.symm, ⟨hcount, hcount'⟩, hnames, hshown, hlines.trans hlines'.symm⟩
  | established hstate hcount hlines =>
    cases h'.stands with
    | established hstate' hcount' hlines' =>
      exact ⟨hstate.trans hstate'.symm, ⟨hcount, hcount'⟩, hnames, hshown, _, hlines, hlines'⟩

end Bridge

end SessionBridge
