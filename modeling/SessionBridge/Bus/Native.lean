import SessionBridge.Bridge.Callback
import SessionBridge.Bus.Error
import SessionBridge.Bus.Target
import SessionBridge.Outcome
import SessionBridge.Session.Basic

/-! The native bus as the session controller sees it: six calls, during each of which the bus may
call back. A bus is any type of bus states with those calls; nothing is assumed about the results. -/
namespace SessionBridge

inductive Incident where
  /-- A callback through the table registered at that moment, if one is. -/
  | callback (table : Option CallbackTable) (call : Callback)
  /-- Somebody tries to connect. -/
  | connect (mode : SessionMode) (sessionName handle : String)
  /-- Somebody looks at the session, with or without a table registered. -/
  | glimpse (registered : Bool)
  deriving DecidableEq

structure Turn (β α : Type) where
  incidents : List Incident
  outcome : Outcome NativeFailure α
  bus : β

class NativeBus (β : Type) where
  registerCallbacks : CallbackTable → β → Turn β Unit
  /-- No callback through the table runs once this call has succeeded. -/
  clearCallbacks : β → Turn β Unit
  advertise : BusTarget → String → β → Turn β SessionId
  discoverAndJoin : BusTarget → String → β → Turn β SessionId
  leave : SessionId → β → Turn β Unit
  send : SessionId → String → β → Turn β Unit

def SessionMode.openOperation : SessionMode → NativeOperation
  | .owner => .advertise
  | .joiner => .discoverAndJoin

def NativeBus.openSession [NativeBus β] (mode : SessionMode) (target : BusTarget)
    (sessionName : String) (bus : β) : Turn β SessionId :=
  match mode with
  | .owner => advertise target sessionName bus
  | .joiner => discoverAndJoin target sessionName bus

inductive HookStep where
  | callback (call : Callback)
  | connect (mode : SessionMode) (sessionName handle : String)
  | glimpse
  | panic
  deriving DecidableEq

def playHook (table : Option CallbackTable) : List HookStep → List Incident × Bool
  | [] => ([], false)
  | .panic :: _ => ([], true)
  | .callback call :: steps =>
    let (incidents, panicked) := playHook table steps
    (.callback table call :: incidents, panicked)
  | .connect mode sessionName handle :: steps =>
    let (incidents, panicked) := playHook table steps
    (.connect mode sessionName handle :: incidents, panicked)
  | .glimpse :: steps =>
    let (incidents, panicked) := playHook table steps
    (.glimpse table.isSome :: incidents, panicked)

end SessionBridge
