import SessionBridge.Bridge.Fault
import SessionBridge.Registry
import SessionBridge.Transcript.Entry

/-! Display handlers. A handler is shown what the bridge has recorded; all that can come back from it
is a crash, and from a participant handler also messages that it hands to the bridge itself. -/
namespace SessionBridge

structure Reaction where
  /-- Messages, each with the code of its kind, that the handler delivers before anything else. -/
  echoes : List (String × Int32)
  crash : Option Crash

structure Handlers where
  onMessage : Entry → Option Crash
  onParticipant : Participant → Reaction

def Handlers.muted (h : Handlers) : Handlers :=
  { h with onParticipant := fun p => { h.onParticipant p with echoes := [] } }

inductive Showing where
  | message (entry : Entry)
  | participant (participant : Participant)
  deriving DecidableEq

inductive Installation where
  | installed
  | alreadyInstalled
  deriving DecidableEq

end SessionBridge
