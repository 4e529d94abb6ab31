import SessionBridge.Bus.Native
import SessionBridge.Control.Error
import SessionBridge.Text.Blank

/-! What a control operation acts on: the bus, the bridge, the account of anchors, and the record of
the native calls made so far. A native call changes the bus as the bus likes, but the bridge only by
the callbacks it makes. -/
namespace SessionBridge

inductive Exchange where
  | registerCallbacks (table : CallbackTable) (outcome : Outcome NativeFailure Unit)
  | clearCallbacks (outcome : Outcome NativeFailure Unit)
  | openSession (mode : SessionMode) (target : BusTarget) (sessionName : String)
      (outcome : Outcome NativeFailure SessionId)
  | leave (id : SessionId) (outcome : Outcome NativeFailure Unit)
  | send (id : SessionId) (text : String) (outcome : Outcome NativeFailure Unit)
  deriving DecidableEq

def Exchange.operation : Exchange → NativeOperation
  | registerCallbacks .. => .registerCallbacks
  | clearCallbacks _ => .clearCallbacks
  | openSession mode .. => mode.openOperation
  | leave .. => .leave
  | send .. => .send

inductive Note where
  /-- A callback for which no table was registered. -/
  | unheard
  /-- A callback through the registered table, and whether the table's anchor was still there. -/
  | delivered (live : Bool)
  | refused (error : ControlError)
  | glimpse (stateName : String) (anchored registered : Bool)
  /-- There is no controller left to ask. -/
  | gone
  deriving DecidableEq

/-- Why a connect is refused before it touches anything: its arguments are looked at first, then
whether another operation runs, then the state. -/
def connectRefusal? (busy : Bool) (state : SessionState) (sessionName handle : String) :
    Option ControlError :=
  if Text.isBlankText sessionName then some (.config .emptySessionName)
  else if Text.isBlankText handle then some (.config .emptyHandle)
  else if busy then some (.session .controlBusy)
  else if state.isDisconnected then none
  else some (.session (.alreadyActive state.name))

structure World (β : Type) where
  bus : β
  bridge : Bridge
  anchors : Anchors
  exchanges : Array Exchange
  notes : Array Note

namespace World

def start (bus : β) (bridge : Bridge) : World β :=
  ⟨bus, bridge, .none, #[], #[]⟩

/-! ### Steps on this side -/

def report (w : World β) (kind : InformType) (text : String) : World β :=
  { w with bridge := w.bridge.report kind text }

def advance (w : World β) (e : SessionEvent) : World β :=
  { w with bridge := w.bridge.advance e }

def publish (w : World β) (e : BridgeEvent) : World β :=
  { w with bridge := w.bridge.publish e }

def issueAnchor (w : World β) : World β :=
  { w with anchors := w.anchors.issue }

def releaseAnchor (w : World β) (id : AnchorId) : World β :=
  { w with anchors := w.anchors.release id }

def leakAnchor (w : World β) (id : AnchorId) : World β :=
  { w with anchors := w.anchors.leak id }

/-! ### Native calls -/

def note (w : World β) (n : Note) : World β :=
  { w with notes := w.notes.push n }

/-- Runs what happened inside a native call. A control operation is in progress meanwhile, so a
connect is always refused; `attended` tells whether there still is a controller. -/
def undergo (attended : Bool) (w : World β) : Incident → World β
  | .callback none _ => w.note .unheard
  | .callback (some table) call =>
    { w with bridge := w.bridge.receive call }.note (.delivered (w.anchors.isLive table.anchor))
  | .connect _ sessionName handle =>
    match attended, connectRefusal? true w.bridge.state sessionName handle with
    | true, some e => w.note (.refused e)
    | _, _ => w.note .gone
  | .glimpse registered =>
    w.note (if attended then .glimpse w.bridge.state.name w.anchors.anchored registered else .gone)

def perform (attended : Bool) (call : β → Turn β α)
    (exchange : Outcome NativeFailure α → Exchange) (w : World β) :
    Outcome NativeFailure α × World β :=
  let turn := call w.bus
  let w := turn.incidents.foldl (undergo attended) { w with bus := turn.bus }
  (turn.outcome, { w with exchanges := w.exchanges.push (exchange turn.outcome) })

variable [NativeBus β]

def registerCallbacks (table : CallbackTable) (w : World β) : Outcome NativeFailure Unit × World β :=
  w.perform true (NativeBus.registerCallbacks table) (.registerCallbacks table)

def clearCallbacks (attended : Bool) (w : World β) : Outcome NativeFailure Unit × World β :=
  w.perform attended NativeBus.clearCallbacks .clearCallbacks

def openSession (mode : SessionMode) (target : BusTarget) (sessionName : String) (w : World β) :
    Outcome NativeFailure SessionId × World β :=
  w.perform true (NativeBus.openSession mode target sessionName)
    (.openSession mode target sessionName)

def leave (attended : Bool) (id : SessionId) (w : World β) : Outcome NativeFailure Unit × World β :=
  w.perform attended (NativeBus.leave id) (.leave id)

def send (id : SessionId) (text : String) (w : World β) : Outcome NativeFailure Unit × World β :=
  w.perform true (NativeBus.send id text) (.send id text)

end World

end SessionBridge
