import SessionBridge.Text.Decimal

/-! What the native bus is asked to do, and what can be wrong before or when it is asked. -/
namespace SessionBridge

inductive NativeOperation where
  | registerCallbacks
  | clearCallbacks
  | advertise
  | discoverAndJoin
  | leave
  | send
  deriving DecidableEq, Inhabited

def NativeOperation.name : NativeOperation → String
  | .registerCallbacks => "register_callbacks"
  | .clearCallbacks => "clear_callbacks"
  | .advertise => "advertise"
  | .discoverAndJoin => "discover_and_join"
  | .leave => "leave"
  | .send => "send"

structure NativeFailure where
  operation : NativeOperation
  status : Int32
  reason : String
  deriving DecidableEq

def NativeFailure.message (f : NativeFailure) : String :=
  "Native " ++ f.operation.name ++ " failed (status " ++ Text.decimal f.status.toInt ++ "): " ++
    f.reason

inductive ConfigError where
  | emptySessionName
  | emptyHandle
  | invalidField (field reason : String)
  | messageTooLong (length limit : Nat)
  deriving DecidableEq

def ConfigError.message : ConfigError → String
  | .emptySessionName => "Session name must not be empty"
  | .emptyHandle => "Handle must not be empty"
  | .invalidField field reason => "Invalid " ++ field ++ ": " ++ reason
  | .messageTooLong length limit =>
    "Message too long: " ++ Text.decimal length ++ " bytes (max: " ++ Text.decimal limit ++ ")"

end SessionBridge
