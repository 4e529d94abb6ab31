import SessionBridge.Bridge.Anchors
import SessionBridge.Bridge.Basic
import SessionBridge.Bridge.NativeText

/-! Callbacks as the native side makes them: a context pointer, which may be null, and native text. A
callback without a context reaches nobody; text that cannot be read is a fault. -/
namespace SessionBridge

inductive Callback where
  | message (hasContext : Bool) (text : NativeText) (code : Int32)
  | participant (hasContext : Bool) (name : NativeText)
  deriving DecidableEq

namespace Callback

def ofMessage (text : String) (code : Int32) : Callback :=
  .message true (.ofString text) code

def ofParticipant (name : String) : Callback :=
  .participant true (.ofString name)

end Callback

namespace Bridge

/-- Takes the text of a callback to the entry point, or records why it cannot be read. -/
def receiveText (b : Bridge) (callback : EntryPoint) (text : NativeText)
    (deliver : Bridge → String → Bridge) : Bridge :=
  match text.decode callback.name callback.argument with
  | .error fault => b.recordFault fault
  | .ok s => deliver b s

def receive (b : Bridge) : Callback → Bridge
  | .message false _ _ => b
  | .message true text code => b.receiveText .message text (·.deliverMessage · code)
  | .participant false _ => b
  | .participant true name => b.receiveText .participant name deliverParticipant

end Bridge

end SessionBridge
