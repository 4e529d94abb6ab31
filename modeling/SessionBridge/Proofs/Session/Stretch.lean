import SessionBridge.Session.Transition

/-! What has happened since a connect, rejected or not. It is complete once an id was accepted and
somebody joined, in either order. While nothing ends it, it accounts for the state with all that the
state defers, and it establishes a session at the very event that completes it. -/
namespace SessionBridge

structure Occurrence where
  event : SessionEvent
  answer : Except Rejection Transition

namespace Occurrence

def accepted (o : Occurrence) : Bool :=
  o.answer.isOk

def materialized? (o : Occurrence) : Option Session :=
  match o.answer with
  | .ok t => t.materialized
  | .error _ => none

/-- The id that the event offered, whether it was taken or not. -/
def id? (o : Occurrence) : Option SessionId :=
  match o.event with
  | .nativeAccepted id => some id
  | _ => none

def isJoin (o : Occurrence) : Bool :=
  o.event = .participantJoined

end Occurrence

/-- A connect and what has happened since, up to the end of the attempt or of the session. -/
structure Stretch where
  mode : SessionMode
  sessionName : String
  handle : String
  occurrences : List Occurrence

namespace Stretch

def add (s : Stretch) (o : Occurrence) : Stretch :=
  { s with occurrences := s.occurrences ++ [o] }

def firstId? (s : Stretch) : Option SessionId :=
  s.occurrences.findSome? Occurrence.id?

def joined (s : Stretch) : Bool :=
  s.occurrences.any Occurrence.isJoin

def isComplete (s : Stretch) : Bool :=
  s.firstId?.isSome && s.joined

def sessions (s : Stretch) : List Session :=
  s.occurrences.filterMap Occurrence.materialized?

def state (s : Stretch) (now : Timestamp) : SessionState :=
  match s.firstId?, s.joined with
  | some id, true => .established ⟨s.mode, id, s.sessionName, s.handle, now⟩
  | id?, joined => .connecting ⟨s.mode, s.sessionName, s.handle, id?, joined, now⟩

@[simp] theorem firstId?_add (s : Stretch) (o : Occurrence) :
    (s.add o).firstId? = s.firstId?.or o.id? := by
  simp [add, firstId?]

@[simp] theorem joined_add (s : Stretch) (o : Occurrence) :
    (s.add o).joined = (s.joined || o.isJoin) := by
  simp [add, joined]

@[simp] theorem sessions_add (s : Stretch) (o : Occurrence) :
    (s.add o).sessions = s.sessions ++ o.materialized?.toList := by
  unfold add sessions
  rw [List.filterMap_append]
  cases h : o.materialized? <;> simp [h]

structure Keeps (s : Stretch) (o : Occurrence) : Prop where
  firstId? : (s.add o).firstId? = s.firstId?
  joined : (s.add o).joined = s.joined
  materialized? : o.materialized? = none

/-- What an occurrence does to an open stretch that it does not close: the stretch with it accounts
for the state, and it establishes a session exactly if it completes the stretch. -/
structure Extends (s : Stretch) (o : Occurrence) (state : SessionState) : Prop where
  state : ∃ now, state = (s.add o).state now
  sessions : o.materialized?.toList.length + s.isComplete.toNat = (s.add o).isComplete.toNat

variable {s : Stretch} {o : Occurrence}

theorem state_of_waiting (h : s.isComplete = false) (now : Timestamp) :
    s.state now = .connecting ⟨s.mode, s.sessionName, s.handle, s.firstId?, s.joined, now⟩ := by
  unfold isComplete at h
  unfold state
  rcases hid : s.firstId? with _ | id
  · rfl
  · rw [hid] at h
    rw [show s.joined = false from h]

theorem state_of_complete {id : SessionId} (hid : s.firstId? = some id) (hjoined : s.joined = true)
    (now : Timestamp) :
    s.state now = .established ⟨s.mode, id, s.sessionName, s.handle, now⟩ := by
  unfold state
  rw [hid, hjoined]

theorem Keeps.extends (h : s.Keeps o) (now : Timestamp) : s.Extends o (s.state now) where
  state := by
    refine ⟨now, ?_⟩
    unfold Stretch.state
    rw [h.firstId?, h.joined]
    rfl
  sessions := by
    unfold isComplete
    rw [h.firstId?, h.joined, h.materialized?]
    exact Nat.zero_add _

end Stretch

/-! ### One event -/

namespace SessionState

def meet (state : SessionState) (now : Timestamp) (e : SessionEvent) : Occurrence :=
  ⟨e, state.transition now e⟩

variable {state : SessionState} {now : Timestamp} {e : SessionEvent}

theorem meet_rejected (h : state.next? now e = none) :
    (state.meet now e).accepted = false ∧ (state.meet now e).materialized? = none ∧
      state.after now e = state := by
  unfold meet transition after Occurrence.accepted Occurrence.materialized?
  rw [h]
  exact ⟨rfl, rfl, rfl⟩

theorem meet_accepted {state' : SessionState} {session? : Option Session}
    (h : state.next? now e = some (state', session?)) :
    (state.meet now e).accepted = true ∧ (state.meet now e).materialized? = session? ∧
      state.after now e = state' := by
  unfold meet transition after Occurrence.accepted Occurrence.materialized?
  rw [h]
  exact ⟨rfl, rfl, rfl⟩

theorem next?_established_join (now : Timestamp) (session : Session) :
    (established session).next? now .participantJoined = some (established session, none) := by
  unfold established
  split <;> rfl

theorem next?_established_disconnect (now : Timestamp) (session : Session) :
    (established session).next? now .disconnect = some (disconnected, none) := by
  unfold established
  split <;> rfl

theorem next?_established (now : Timestamp) (session : Session) (hjoin : e ≠ .participantJoined)
    (hdisconnect : e ≠ .disconnect) : (established session).next? now e = none := by
  unfold established
  cases e with
  | participantJoined => exact absurd rfl hjoin
  | disconnect => exact absurd rfl hdisconnect
  | _ => split <;> rfl

end SessionState

namespace Stretch

variable (s : Stretch) (t now : Timestamp)

theorem isComplete_cases :
    s.isComplete = false ∨ ∃ id, s.firstId? = some id ∧ s.joined = true := by
  unfold isComplete
  rcases hid : s.firstId? with _ | id
  · exact .inl rfl
  · cases hjoined : s.joined with
    | false => exact .inl rfl
    | true => exact .inr ⟨id, rfl, rfl⟩

theorem extends_of_keeps {e : SessionEvent} (hkeeps : s.Keeps ((s.state t).meet now e))
    (hafter : (s.state t).after now e = s.state t) :
    s.Extends ((s.state t).meet now e) ((s.state t).after now e) := by
  rw [hafter]
  exact hkeeps.extends t

theorem extends_connect (mode : SessionMode) (sessionName handle : String) :
    ((s.state t).meet now (.connect mode sessionName handle)).accepted = false ∧
      s.Extends ((s.state t).meet now (.connect mode sessionName handle))
        ((s.state t).after now (.connect mode sessionName handle)) := by
  have hnone : (s.state t).next? now (.connect mode sessionName handle) = none := by
    rcases s.isComplete_cases with hwaiting | ⟨id, hid, hjoined⟩
    · rw [state_of_waiting hwaiting]
      rfl
    · rw [state_of_complete hid hjoined]
      exact SessionState.next?_established now _ nofun nofun
  obtain ⟨hrejected, hmaterialized, hafter⟩ := SessionState.meet_rejected hnone
  refine ⟨hrejected, s.extends_of_keeps t now ⟨?_, ?_, hmaterialized⟩ hafter⟩
  · rw [firstId?_add]
    exact Option.or_none
  · rw [joined_add]
    exact Bool.or_false _

theorem extends_nativeAccepted (id : SessionId) :
    s.Extends ((s.state t).meet now (.nativeAccepted id))
      ((s.state t).after now (.nativeAccepted id)) := by
  have hkeptJoin : (s.add ((s.state t).meet now (.nativeAccepted id))).joined = s.joined := by
    rw [joined_add]
    exact Bool.or_false _
  -- Only the first id counts; the first one completes the stretch if a join was deferred.
  rcases hid : s.firstId? with _ | first
  · have hwaiting : s.isComplete = false := by
      rw [isComplete, hid]
      rfl
    have hnewId : (s.add ((s.state t).meet now (.nativeAccepted id))).firstId? = some id := by
      rw [firstId?_add, hid]
      rfl
    cases hjoined : s.joined with
    | true =>
      rw [hjoined] at hkeptJoin
      have hnext : (s.state t).next? now (.nativeAccepted id) =
          some (.established ⟨s.mode, id, s.sessionName, s.handle, now⟩,
            some ⟨s.mode, id, s.sessionName, s.handle, now⟩) := by
        rw [state_of_waiting hwaiting, hid, hjoined]
        rfl
      obtain ⟨-, hmaterialized, hafter⟩ := SessionState.meet_accepted hnext
      constructor
      · exact ⟨now, hafter.trans (state_of_complete hnewId hkeptJoin now).symm⟩
      · rw [hmaterialized, hwaiting, isComplete, hnewId, hkeptJoin]
        rfl
    | false =>
      rw [hjoined] at hkeptJoin
      have hnext : (s.state t).next? now (.nativeAccepted id) =
          some (.connecting ⟨s.mode, s.sessionName, s.handle, some id, false, t⟩, none) := by
        rw [state_of_waiting hwaiting, hid, hjoined]
        rfl
      obtain ⟨-, hmaterialized, hafter⟩ := SessionState.meet_accepted hnext
      have hstill : (s.add ((s.state t).meet now (.nativeAccepted id))).isComplete = false := by
        rw [isComplete, hnewId, hkeptJoin]
        rfl
      constructor
      · refine ⟨t, hafter.trans ?_⟩
        rw [state_of_waiting hstill, hnewId, hkeptJoin]
        rfl
      · rw [hmaterialized, hwaiting, hstill]
        rfl
  · have hnone : (s.state t).next? now (.nativeAccepted id) = none := by
      rcases s.isComplete_cases with hwaiting | ⟨id', hid', hjoined⟩
      · rw [state_of_waiting hwaiting, hid]
        rfl
      · rw [state_of_complete hid' hjoined]
        exact SessionState.next?_established now _ nofun nofun
    obtain ⟨-, hmaterialized, hafter⟩ := SessionState.meet_rejected hnone
    refine s.extends_of_keeps t now ⟨?_, hkeptJoin, hmaterialized⟩ hafter
    rw [firstId?_add, hid]
    rfl

theorem extends_participantJoined :
    s.Extends ((s.state t).meet now .participantJoined)
      ((s.state t).after now .participantJoined) := by
  have hkeptId : (s.add ((s.state t).meet now .participantJoined)).firstId? = s.firstId? := by
    rw [firstId?_add]
    exact Option.or_none
  have hnowJoined : (s.add ((s.state t).meet now .participantJoined)).joined = true := by
    rw [joined_add]
    exact Bool.or_true _
  rcases s.isComplete_cases with hwaiting | ⟨id, hid, hjoined⟩
  · rcases hid : s.firstId? with _ | id
    · rw [hid] at hkeptId
      have hnext : (s.state t).next? now .participantJoined =
          some (.connecting ⟨s.mode, s.sessionName, s.handle, none, true, t⟩, none) := by
        rw [state_of_waiting hwaiting, hid]
        rfl
      obtain ⟨-, hmaterialized, hafter⟩ := SessionState.meet_accepted hnext
      have hstill : (s.add ((s.state t).meet now .participantJoined)).isComplete = false := by
        rw [isComplete, hkeptId]
        rfl
      constructor
      · refine ⟨t, hafter.trans ?_⟩
        rw [state_of_waiting hstill, hkeptId, hnowJoined]
        rfl
      · rw [hmaterialized, hwaiting, hstill]
        rfl
    · rw [hid] at hkeptId
      have hnext : (s.state t).next? now .participantJoined =
          some (.established ⟨s.mode, id, s.sessionName, s.handle, now⟩,
            some ⟨s.mode, id, s.sessionName, s.handle, now⟩) := by
        rw [state_of_waiting hwaiting, hid]
        rfl
      obtain ⟨-, hmaterialized, hafter⟩ := SessionState.meet_accepted hnext
      constructor
      · exact ⟨now, hafter.trans (state_of_complete hkeptId hnowJoined now).symm⟩
      · rw [hmaterialized, hwaiting, isComplete, hkeptId, hnowJoined]
        rfl
  · have hnext : (s.state t).next? now .participantJoined = some (s.state t, none) := by
      rw [state_of_complete hid hjoined]
      exact SessionState.next?_established_join now _
    obtain ⟨-, hmaterialized, hafter⟩ := SessionState.meet_accepted hnext
    exact s.extends_of_keeps t now ⟨hkeptId, hnowJoined.trans hjoined.symm, hmaterialized⟩ hafter

theorem ends_or_extends_connectFailed (reason : String) :
    (s.state t).next? now (.connectFailed reason) = some (.disconnected, none) ∨
      ((s.state t).meet now (.connectFailed reason)).accepted = false ∧
        s.Extends ((s.state t).meet now (.connectFailed reason))
          ((s.state t).after now (.connectFailed reason)) := by
  rcases s.isComplete_cases with hwaiting | ⟨id, hid, hjoined⟩
  · left
    rw [state_of_waiting hwaiting]
    rfl
  · right
    have hnone : (s.state t).next? now (.connectFailed reason) = none := by
      rw [state_of_complete hid hjoined]
      exact SessionState.next?_established now _ nofun nofun
    obtain ⟨hrejected, hmaterialized, hafter⟩ := SessionState.meet_rejected hnone
    refine ⟨hrejected, s.extends_of_keeps t now ⟨?_, ?_, hmaterialized⟩ hafter⟩
    · rw [firstId?_add]
      exact Option.or_none
    · rw [joined_add]
      exact Bool.or_false _

theorem ends_disconnect : (s.state t).next? now .disconnect = some (.disconnected, none) := by
  rcases s.isComplete_cases with hwaiting | ⟨id, hid, hjoined⟩
  · rw [state_of_waiting hwaiting]
    rfl
  · rw [state_of_complete hid hjoined]
    exact SessionState.next?_established_disconnect now _

end Stretch

end SessionBridge
