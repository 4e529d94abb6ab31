import SessionBridge.Bus.Error
import SessionBridge.Bus.Target

/-! The configuration of the session bridge: the target on the bus and two limits. -/
namespace SessionBridge

structure BusConfig extends BusTarget where
  /-- The longest message that is sent, in bytes. -/
  maxMessageLength : UInt64
  /-- How many events the feed is asked to keep. -/
  eventBufferSize : UInt64
  deriving DecidableEq

namespace BusConfig

def standard : BusConfig where
  interfaceName := "org.alljoyn.bus.samples.chat"
  namePrefix := "org.alljoyn.bus.samples.chat."
  objectPath := "/chatService"
  sessionPort := 27
  maxMessageLength := 1024
  eventBufferSize := 64

def roomy : BusConfig :=
  { standard with eventBufferSize := 1024 }

instance : Inhabited BusConfig := ⟨standard⟩

def target (c : BusConfig) : BusTarget :=
  c.toBusTarget

/-- Checks the fields in order and reports the first that is wrong. -/
def validate (c : BusConfig) : Except ConfigError Unit :=
  if c.interfaceName.isEmpty then
    .error (.invalidField "interface_name" "must not be empty")
  else if c.namePrefix.toList.getLast? ≠ some '.' then
    .error (.invalidField "name_prefix" ("'" ++ c.namePrefix ++ "' must end with '.'"))
  else if c.objectPath.toList.head? ≠ some '/' then
    .error (.invalidField "object_path" ("'" ++ c.objectPath ++ "' must start with '/'"))
  else if c.maxMessageLength = 0 then
    .error (.invalidField "max_message_len" "must be greater than 0")
  else if c.eventBufferSize = 0 then
    .error (.invalidField "event_buffer_size" "must be greater than 0")
  else .ok ()

end BusConfig

end SessionBridge
