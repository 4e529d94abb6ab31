import SessionBridge.Text.Decimal

/-! Faults at the callback boundary. None of them crosses it: each becomes a line of the transcript. -/
namespace SessionBridge

inductive EntryPoint where
  | message
  | participant
  deriving DecidableEq

namespace EntryPoint

def name : EntryPoint → String
  | message => "on_message_received"
  | participant => "on_participant_subscribed"

def argument : EntryPoint → String
  | message => "text"
  | participant => "name"

end EntryPoint

/-- How a display handler fails: with a text, or with something that is not one. What it fails with is
let go of once the fault has been recorded, where nothing contains a second failure any more; letting go
of it is taken to succeed. -/
inductive Crash where
  | text (message : String)
  | wordless
  deriving DecidableEq

def Crash.message : Crash → String
  | .text message => message
  | .wordless => "unknown panic"

inductive CallbackFault where
  | nullPointer (callback argument : String)
  | negativeSize (callback : String) (size : Int32)
  | panicked (callback message : String)
  deriving DecidableEq

def CallbackFault.message : CallbackFault → String
  | .nullPointer callback argument => callback ++ ": null " ++ argument ++ " pointer"
  | .negativeSize callback size => callback ++ ": negative size " ++ Text.decimal size.toInt
  | .panicked callback message => callback ++ ": handler panicked: " ++ message

end SessionBridge
