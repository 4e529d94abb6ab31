import SessionBridge.Registry
import SessionBridge.Session.Basic
import SessionBridge.Transcript.Entry

/-! The feed of events to displays. It never waits for a reader: it keeps the newest events up to its
capacity, and a receiver that has fallen further behind is told how many it missed. -/
namespace SessionBridge

inductive BridgeEvent where
  | transcript (entry : Entry)
  | participantJoined (participant : Participant)
  | sessionEstablished (session : Session)
  | disconnected
  deriving DecidableEq

/-- Everything published so far, of which a receiver can still get the last `capacity` events. -/
structure Feed where
  capacity : Nat
  published : Array BridgeEvent
  deriving DecidableEq

/-- A receiver is the position of the next event it has not been given. -/
structure Receiver where
  next : Nat
  deriving DecidableEq, Inhabited

inductive Reading where
  | event (e : BridgeEvent)
  | lagged (missed : Nat)
  | empty
  | closed
  deriving DecidableEq

namespace Feed

/-- No feed has a larger capacity, because its room could not be addressed. -/
def capacityLimit : Nat := 72057594037927936

/-- A feed for at least `size` events, which are one or more; its capacity is the next power of two. -/
def ofSize? (size : Nat) : Option Feed :=
  if size = 0 || capacityLimit < size.nextPowerOfTwo then none else some ⟨size.nextPowerOfTwo, #[]⟩

def publish (f : Feed) (e : BridgeEvent) : Feed :=
  { f with published := f.published.push e }

def subscribe (f : Feed) : Receiver :=
  ⟨f.published.size⟩

def pending (f : Feed) (r : Receiver) : Nat :=
  f.published.size - r.next

/-- One read of a feed; `ended` says that nobody is left who could publish. -/
def read (f : Feed) (ended : Bool) (r : Receiver) : Reading × Receiver :=
  if f.capacity < f.pending r then
    (.lagged (f.pending r - f.capacity), ⟨f.published.size - f.capacity⟩)
  else match f.published[r.next]? with
    | some e => (.event e, ⟨r.next + 1⟩)
    | none => (if ended then .closed else .empty, r)

def receive (f : Feed) (ended : Bool) : Nat → Receiver → List Reading × Receiver
  | 0, r => ([], r)
  | max + 1, r =>
    match f.read ended r with
    | (.empty, r) => ([.empty], r)
    | (.closed, r) => ([.closed], r)
    | (reading, r) =>
      let (rest, r) := f.receive ended max r
      (reading :: rest, r)

@[simp] theorem published_publish (f : Feed) (e : BridgeEvent) :
    (f.publish e).published = f.published.push e := rfl

end Feed

end SessionBridge
