import SessionBridge.Bus.Error

/-! The errors of the control operations. -/
namespace SessionBridge

inductive SessionError where
  | alreadyActive (state : String)
  | notConnected
  | notEstablished (state : String)
  | controlBusy
  deriving DecidableEq

def SessionError.message : SessionError → String
  | .alreadyActive state => "Session already active in state " ++ state
  | .notConnected => "Not connected"
  | .notEstablished state => "Session not established (state " ++ state ++ ")"
  | .controlBusy => "Another connect or disconnect is in progress"

inductive ControlError where
  | config (error : ConfigError)
  | native (failure : NativeFailure)
  | session (error : SessionError)
  deriving DecidableEq

namespace ControlError

def inner : ControlError → String
  | config error => error.message
  | native failure => failure.message
  | session error => error.message

def message : ControlError → String
  | config error => "Configuration error: " ++ error.message
  | native failure => "Native call error: " ++ failure.message
  | session error => "Session error: " ++ error.message

/-- Whether the bus reported the error, and not a check on this side. -/
def isNative : ControlError → Bool
  | native _ => true
  | _ => false

end ControlError

end SessionBridge
