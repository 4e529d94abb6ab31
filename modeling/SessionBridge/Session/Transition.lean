import SessionBridge.Session.Event

/-! The transition function of the session. It has no memory besides the state and no effects, so a
rejected event leaves nothing behind but the rejection. -/
namespace SessionBridge

structure AuditEntry where
  timestamp : Timestamp
  fromState : String
  toState : String
  event : String
  deriving DecidableEq

structure Transition where
  newState : SessionState
  /-- The session that this transition established, if it did. -/
  materialized : Option Session
  audit : AuditEntry
  deriving DecidableEq

structure Rejection where
  fromState : String
  event : String
  reason : String
  deriving DecidableEq

def Rejection.message (r : Rejection) : String :=
  "Invalid transition from " ++ r.fromState ++ " on event " ++ r.event ++ ": " ++ r.reason

namespace SessionState

/-- The state after an event and the session it established. Repeated participants leave an
established session alone, and only the first acceptance of an attempt counts. -/
def next? (now : Timestamp) : SessionState → SessionEvent → Option (SessionState × Option Session)
  | disconnected, .connect mode sessionName handle =>
    some (connecting ⟨mode, sessionName, handle, none, false, now⟩, none)
  | connecting a, .nativeAccepted id =>
    match a.sessionId with
    | some _ => none
    | none =>
      if a.joinedEarly then
        let session := a.establish id now
        some (established session, some session)
      else some (connecting { a with sessionId := some id }, none)
  | connecting _, .connectFailed _ => some (disconnected, none)
  | connecting a, .participantJoined =>
    match a.sessionId with
    | some id =>
      let session := a.establish id now
      some (established session, some session)
    | none => some (connecting { a with joinedEarly := true }, none)
  | owner s, .participantJoined => some (owner s, none)
  | joined s, .participantJoined => some (joined s, none)
  | connecting _, .disconnect => some (disconnected, none)
  | owner _, .disconnect => some (disconnected, none)
  | joined _, .disconnect => some (disconnected, none)
  | _, _ => none

def rejection (s : SessionState) (e : SessionEvent) : Rejection where
  fromState := s.name
  event := e.text
  reason := "Event " ++ e.text ++ " not valid for state " ++ s.name

def transition (now : Timestamp) (s : SessionState) (e : SessionEvent) :
    Except Rejection Transition :=
  match s.next? now e with
  | some (t, session) => .ok ⟨t, session, ⟨now, s.name, t.name, e.text⟩⟩
  | none => .error (s.rejection e)

/-- The state after an event; a rejected event changes nothing. -/
def after (now : Timestamp) (s : SessionState) (e : SessionEvent) : SessionState :=
  match s.next? now e with
  | some (t, _) => t
  | none => s

end SessionState

end SessionBridge
