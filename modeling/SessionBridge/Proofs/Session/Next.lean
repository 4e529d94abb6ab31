import SessionBridge.Session.Transition

/-! What an accepted event can come to, and which events a state accepts. -/
namespace SessionBridge

namespace SessionState

inductive Next (now : Timestamp) :
    SessionState → SessionEvent → SessionState → Option Session → Prop where
  | attempted {mode : SessionMode} {sessionName handle : String} :
      Next now disconnected (.connect mode sessionName handle)
        (connecting ⟨mode, sessionName, handle, none, false, now⟩) none
  | accepted {a : Attempt} {id : SessionId} (hid : a.sessionId = none) :
      Next now (connecting a) (.nativeAccepted id) (connecting { a with sessionId := some id }) none
  | completed {a : Attempt} {id : SessionId} (hid : a.sessionId = none) :
      Next now (connecting a) (.nativeAccepted id) (established (a.establish id now))
        (some (a.establish id now))
  | failed {a : Attempt} {reason : String} :
      Next now (connecting a) (.connectFailed reason) disconnected none
  | early {a : Attempt} (hid : a.sessionId = none) :
      Next now (connecting a) .participantJoined (connecting { a with joinedEarly := true }) none
  | first {a : Attempt} {id : SessionId} (hid : a.sessionId = some id) :
      Next now (connecting a) .participantJoined (established (a.establish id now))
        (some (a.establish id now))
  | again {state : SessionState} (hsession : state.session?.isSome) :
      Next now state .participantJoined state none
  | ended {state : SessionState} (hactive : state ≠ disconnected) :
      Next now state .disconnect disconnected none

theorem next_of_next? {now : Timestamp} {state state' : SessionState} {e : SessionEvent}
    {session? : Option Session} (h : state.next? now e = some (state', session?)) :
    Next now state e state' session? := by
  cases state with
  | disconnected =>
    cases e with
    | connect mode sessionName handle =>
      cases h
      exact .attempted
    | _ => cases h
  | connecting a =>
    cases e with
    | connect mode sessionName handle => cases h
    | connectFailed reason =>
      cases h
      exact .failed
    | disconnect =>
      cases h
      exact .ended (by simp)
    | nativeAccepted id =>
      rcases hid : a.sessionId with _ | waiting
      · cases hearly : a.joinedEarly with
        | true =>
          simp only [next?, hid, hearly, if_true] at h
          cases h
          exact .completed hid
        | false =>
          simp only [next?, hid, hearly, Bool.false_eq_true, if_false] at h
          cases h
          have haccepted : Next now (connecting a) (.nativeAccepted id)
              (connecting { a with sessionId := some id }) none := .accepted hid
          rw [hearly] at haccepted
          exact haccepted
      · simp [next?, hid] at h
    | participantJoined =>
      rcases hid : a.sessionId with _ | waiting
      · simp only [next?, hid] at h
        cases h
        have hearly : Next now (connecting a) .participantJoined
            (connecting { a with joinedEarly := true }) none := .early hid
        rw [hid] at hearly
        exact hearly
      · simp only [next?, hid] at h
        cases h
        exact .first hid
  | owner s =>
    cases e with
    | participantJoined =>
      cases h
      exact .again rfl
    | disconnect =>
      cases h
      exact .ended (by simp)
    | _ => cases h
  | joined s =>
    cases e with
    | participantJoined =>
      cases h
      exact .again rfl
    | disconnect =>
      cases h
      exact .ended (by simp)
    | _ => cases h

theorem session?_eq_some_iff {state : SessionState} {s : Session} :
    state.session? = some s ↔ state = .owner s ∨ state = .joined s := by
  cases state <;> simp [session?]

theorem Next.materialized {now : Timestamp} {state state' : SessionState} {e : SessionEvent}
    {s : Session} (h : Next now state e state' (some s)) :
    state' = established s ∧ s.establishedAt = now := by
  cases h with
  | completed hid => exact ⟨rfl, rfl⟩
  | first hid => exact ⟨rfl, rfl⟩

theorem next?_materialized {now : Timestamp} {state state' : SessionState} {e : SessionEvent}
    {s : Session} (h : state.next? now e = some (state', some s)) :
    state' = established s ∧ s.establishedAt = now :=
  (next_of_next? h).materialized

end SessionState

end SessionBridge
