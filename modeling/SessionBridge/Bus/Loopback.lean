import SessionBridge.Bus.Native

/-! A bus inside the process. It keeps one session open at a time, numbers sessions from one, logs
every call, and fails a call on request: a request waits for the next call of its operation, and
asking again before then changes nothing. -/
namespace SessionBridge

structure Loopback where
  table : Option CallbackTable
  operations : Array NativeOperation
  /-- The operations whose next call is to fail. -/
  failing : List NativeOperation
  sent : Array (SessionId × String)
  /-- How many sessions have been opened. -/
  opened : UInt32
  current : Option SessionId
  targets : Array BusTarget
  /-- Runs inside every leave call that is not made to fail. -/
  leaveHook : List HookStep

namespace Loopback

def idle : Loopback := ⟨none, #[], [], #[], 0, none, #[], []⟩

instance : Inhabited Loopback := ⟨idle⟩

def injectedStatus : Int32 := 0x9000

def failNext (l : Loopback) (o : NativeOperation) : Loopback :=
  { l with failing := if l.failing.contains o then l.failing else o :: l.failing }

def onLeave (l : Loopback) (hook : List HookStep) : Loopback :=
  { l with leaveHook := hook }

def isRegistered (l : Loopback) : Bool :=
  l.table.isSome

def lastTarget? (l : Loopback) : Option BusTarget :=
  l.targets.back?

def log (l : Loopback) (o : NativeOperation) : Loopback :=
  { l with operations := l.operations.push o, failing := l.failing.filter (· ≠ o) }

def injected (o : NativeOperation) : NativeFailure :=
  ⟨o, injectedStatus, "injected failure"⟩

def alreadyOpen (o : NativeOperation) : NativeFailure :=
  ⟨o, 1, "session already open"⟩

def notOpen (o : NativeOperation) (id : SessionId) : NativeFailure :=
  ⟨o, 1, "session " ++ id.text ++ " is not open"⟩

/-- Logs a call, then fails it if that was asked for, else performs it. -/
def perform (o : NativeOperation) (act : Loopback → Turn Loopback α) (l : Loopback) :
    Turn Loopback α :=
  if l.failing.contains o then ⟨[], .failure (injected o), l.log o⟩ else act (l.log o)

/-- Opens a session. The target is kept even when a session is open already. -/
def openNext (o : NativeOperation) (target : BusTarget) (l : Loopback) : Turn Loopback SessionId :=
  let l := { l with targets := l.targets.push target }
  match l.current with
  | some _ => ⟨[], .failure (alreadyOpen o), l⟩
  | none =>
    let id : SessionId := ⟨l.opened + 1⟩
    ⟨[], .value id, { l with opened := l.opened + 1, current := some id }⟩

def close (id : SessionId) (l : Loopback) : Turn Loopback Unit :=
  let (incidents, panicked) := playHook l.table l.leaveHook
  if panicked then ⟨incidents, .panic, l⟩
  else if l.current = some id then ⟨incidents, .value (), { l with current := none }⟩
  else ⟨incidents, .failure (notOpen .leave id), l⟩

def emit (id : SessionId) (text : String) (l : Loopback) : Turn Loopback Unit :=
  if l.current = some id then ⟨[], .value (), { l with sent := l.sent.push (id, text) }⟩
  else ⟨[], .failure (notOpen .send id), l⟩

instance : NativeBus Loopback where
  registerCallbacks table :=
    perform .registerCallbacks fun l => ⟨[], .value (), { l with table := some table }⟩
  clearCallbacks := perform .clearCallbacks fun l => ⟨[], .value (), { l with table := none }⟩
  advertise target _ := perform .advertise (openNext .advertise target)
  discoverAndJoin target _ := perform .discoverAndJoin (openNext .discoverAndJoin target)
  leave id := perform .leave (close id)
  send id text := perform .send (emit id text)

end Loopback

end SessionBridge
