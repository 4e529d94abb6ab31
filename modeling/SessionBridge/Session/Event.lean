import SessionBridge.Session.Basic
import SessionBridge.Text.Quoted

/-! What can happen to the session, and the text of each happening for the audit trail. Names,
handles and reasons are quoted there, so no text can pass for another event. -/
namespace SessionBridge

inductive SessionEvent where
  | connect (mode : SessionMode) (sessionName handle : String)
  | nativeAccepted (id : SessionId)
  | connectFailed (reason : String)
  | participantJoined
  | disconnect
  deriving DecidableEq

namespace SessionEvent

inductive Kind where
  | connect
  | nativeAccepted
  | connectFailed
  | participantJoined
  | disconnect
  deriving DecidableEq

def kind : SessionEvent → Kind
  | connect .. => .connect
  | nativeAccepted _ => .nativeAccepted
  | connectFailed _ => .connectFailed
  | participantJoined => .participantJoined
  | disconnect => .disconnect

def text : SessionEvent → String
  | connect mode sessionName handle =>
    "Connect \x7b mode: " ++ mode.name ++ ", session_name: " ++ Text.quote sessionName ++
      ", handle: " ++ Text.quote handle ++ " \x7d"
  | nativeAccepted id => "NativeAccepted \x7b session_id: SessionId(" ++ id.text ++ ") \x7d"
  | connectFailed reason => "ConnectFailed \x7b reason: " ++ Text.quote reason ++ " \x7d"
  | participantJoined => "ParticipantJoined"
  | disconnect => "Disconnect"

end SessionEvent

end SessionBridge
