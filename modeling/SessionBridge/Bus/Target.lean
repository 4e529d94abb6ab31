import SessionBridge.Text.Decimal
import SessionBridge.Text.Quoted

/-! Where on the bus the chat service is published. -/
namespace SessionBridge

structure BusTarget where
  interfaceName : String
  namePrefix : String
  objectPath : String
  /-- The number under which joiners reach a session. -/
  sessionPort : UInt16
  deriving DecidableEq, Inhabited

namespace BusTarget

def wellKnownName (t : BusTarget) (sessionName : String) : String :=
  t.namePrefix ++ sessionName

def text (t : BusTarget) : String :=
  "BusTarget \x7b interface_name: " ++ Text.quote t.interfaceName ++ ", name_prefix: " ++
    Text.quote t.namePrefix ++ ", object_path: " ++ Text.quote t.objectPath ++
    ", session_port: " ++ Text.decimal t.sessionPort.toNat ++ " \x7d"

/-- The text of a handle on the bus, which shows its target and leaves the rest out. -/
def handleText (t : BusTarget) : String :=
  "BusHandle \x7b target: " ++ t.text ++ ", .. \x7d"

end BusTarget

end SessionBridge
