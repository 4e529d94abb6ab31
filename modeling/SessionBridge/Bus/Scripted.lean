import SessionBridge.Bus.Loopback

/-! A bus that follows a script laid over a loopback bus: queued failures, hooks that run before or
after a call, and session ids of the script's choice. -/
namespace SessionBridge

/-- When a hook runs, seen from the call it belongs to. -/
inductive Moment where
  | before
  | after
  deriving DecidableEq

/-- The id that the next successful open returns. An alias is turned back when it is used. -/
structure ChosenId where
  id : SessionId
  isAlias : Bool
  deriving DecidableEq

structure Scripted where
  loopback : Loopback
  /-- Failures that wait for a call of their operation, oldest first. -/
  failures : List NativeFailure
  hooks : List ((NativeOperation × Moment) × List HookStep)
  nextId : Option ChosenId
  /-- The loopback's id behind each alias. -/
  aliases : List (SessionId × SessionId)

namespace Scripted

def idle : Scripted := ⟨.idle, [], [], none, []⟩

instance : Inhabited Scripted := ⟨idle⟩

def failWith (s : Scripted) (f : NativeFailure) : Scripted :=
  { s with failures := s.failures ++ [f] }

/-- Sets a hook in the place of the one that was set for the same call and moment. -/
def setHook (s : Scripted) (o : NativeOperation) (m : Moment) (steps : List HookStep) : Scripted :=
  { s with hooks := ((o, m), steps) :: s.hooks.filter (·.1 ≠ (o, m)) }

def chooseId (s : Scripted) (id : ChosenId) : Scripted :=
  { s with nextId := some id }

def mapLoopback (s : Scripted) (f : Loopback → Loopback) : Scripted :=
  { s with loopback := f s.loopback }

def takeFailure (s : Scripted) (o : NativeOperation) : Option NativeFailure × Scripted :=
  (s.failures.find? (·.operation = o), { s with failures := s.failures.eraseP (·.operation = o) })

def runHook (s : Scripted) (o : NativeOperation) (m : Moment) :
    (List Incident × Bool) × Scripted :=
  (playHook s.loopback.table ((s.hooks.lookup (o, m)).getD []),
    { s with hooks := s.hooks.filter (·.1 ≠ (o, m)) })

/-- A call of the loopback with the script around it: a queued failure is taken first, but the hook
in front still runs; the hook behind runs whether the loopback succeeds or not. -/
def around (o : NativeOperation) (call : Loopback → Turn Loopback α) (s : Scripted) :
    Turn Scripted α :=
  let (failure?, s) := s.takeFailure o
  let ((before, panicked), s) := s.runHook o .before
  if panicked then ⟨before, .panic, s⟩
  else match failure? with
    | some f => ⟨before, .failure f, s⟩
    | none =>
      let turn := call s.loopback
      let s := { s with loopback := turn.bus }
      match turn.outcome with
      | .panic => ⟨before ++ turn.incidents, .panic, s⟩
      | outcome =>
        let ((behind, panicked), s) := s.runHook o .after
        ⟨before ++ turn.incidents ++ behind, if panicked then .panic else outcome, s⟩

def rename (turn : Turn Scripted SessionId) : Turn Scripted SessionId :=
  match turn.outcome, turn.bus.nextId with
  | .value id, some chosen =>
    let aliases := if chosen.isAlias then (chosen.id, id) :: turn.bus.aliases else turn.bus.aliases
    { turn with outcome := .value chosen.id, bus := { turn.bus with nextId := none, aliases } }
  | _, _ => turn

def underlying (s : Scripted) (id : SessionId) : SessionId :=
  (s.aliases.lookup id).getD id

instance : NativeBus Scripted where
  registerCallbacks table := around .registerCallbacks (NativeBus.registerCallbacks table)
  clearCallbacks := around .clearCallbacks NativeBus.clearCallbacks
  advertise target name s := rename (around .advertise (NativeBus.advertise target name) s)
  discoverAndJoin target name s :=
    rename (around .discoverAndJoin (NativeBus.discoverAndJoin target name) s)
  leave id s := around .leave (NativeBus.leave (s.underlying id)) s
  send id text s := around .send (NativeBus.send (s.underlying id) text) s

end Scripted

end SessionBridge
