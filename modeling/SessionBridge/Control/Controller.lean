import SessionBridge.Bus.Config
import SessionBridge.Control.World

/-! The session controller: connect, send, disconnect, and the release that comes when it is given
up. The native resources of an open session are its link; they are released in a fixed order, and an
anchor is let go only after the bus has confirmed that the callbacks have stopped. -/
namespace SessionBridge

structure Link where
  target : BusTarget
  anchor : AnchorId
  sessionName : String
  deriving DecidableEq

structure Controller (β : Type) where
  config : BusConfig
  world : World β
  link : Option Link

namespace Controller

/-- A controller for a configuration that is in order. No feed as large as it asks for is a panic. -/
def create (config : BusConfig) (bus : β) (now : Timestamp) (opened : String) :
    Outcome ControlError (Controller β) :=
  match config.validate with
  | .error e => .failure (.config e)
  | .ok () =>
    match Bridge.ofSize? config.eventBufferSize.toNat now opened with
    | none => .panic
    | some bridge => .value ⟨config, .start bus bridge, none⟩

def bridge (c : Controller β) : Bridge :=
  c.world.bridge

def state (c : Controller β) : SessionState :=
  c.world.bridge.state

def onWorld (c : Controller β) (f : World β → World β) : Controller β :=
  { c with world := f c.world }

def onBridge (c : Controller β) (f : Bridge → Bridge) : Controller β :=
  c.onWorld fun w => { w with bridge := f w.bridge }

def receive (c : Controller β) (call : Callback) : Controller β :=
  c.onBridge (·.receive call)

def abortConnect (failure : NativeFailure) (w : World β) : World β :=
  (w.advance (.connectFailed failure.message)).report .error ("Connect failed: " ++ failure.message)

variable [NativeBus β]

/-- Takes the callbacks back after a failed open. The anchor stays for good unless the bus confirms
it; a panic releases it with everything else that the connect owned. -/
def withdraw (anchor : AnchorId) (failure : NativeFailure) (w : World β) :
    Outcome ControlError α × World β :=
  match w.clearCallbacks true with
  | (.panic, w) => (.panic, w.releaseAnchor anchor)
  | (.value (), w) => (.failure (.native failure), abortConnect failure (w.releaseAnchor anchor))
  | (.failure _, w) => (.failure (.native failure), abortConnect failure (w.leakAnchor anchor))

def openLink (target : BusTarget) (anchor : AnchorId) (mode : SessionMode) (sessionName : String)
    (w : World β) : Outcome ControlError SessionId × World β :=
  match w.registerCallbacks ⟨anchor⟩ with
  | (.panic, w) => (.panic, w.releaseAnchor anchor)
  | (.failure f, w) => (.failure (.native f), (abortConnect f w).releaseAnchor anchor)
  | (.value (), w) =>
    let w := w.report .status (target.wellKnownName sessionName ++ " is " ++ mode.role)
    match w.openSession mode target sessionName with
    | (.panic, w) => (.panic, w.releaseAnchor anchor)
    | (.value id, w) => (.value id, w)
    | (.failure f, w) => withdraw anchor f w

/-- Opens a session as owner or joiner. It is established later, by the first participant. -/
def connect (c : Controller β) (mode : SessionMode) (sessionName handle : String) :
    Outcome ControlError Unit × Controller β :=
  match connectRefusal? false c.state sessionName handle with
  | some e => (.failure e, c)
  | none =>
    let anchor := c.world.anchors.next
    let w := (c.world.advance (.connect mode sessionName handle)).issueAnchor
    match openLink c.config.target anchor mode sessionName w with
    | (.panic, w) => (.panic, { c with world := w })
    | (.failure e, w) => (.failure e, { c with world := w })
    | (.value id, w) =>
      (.value (), { c with
        world := w.advance (.nativeAccepted id)
        link := some ⟨c.config.target, anchor, sessionName⟩ })

def send (c : Controller β) (text : String) : Outcome ControlError Unit × Controller β :=
  if c.config.maxMessageLength.toNat < text.utf8ByteSize then
    (.failure (.config (.messageTooLong text.utf8ByteSize c.config.maxMessageLength.toNat)), c)
  else match c.state.session?, c.link with
    | none, _ => (.failure (.session (.notEstablished c.state.name)), c)
    | some _, none => (.failure (.session .notConnected), c)
    | some session, some _ =>
      match c.world.send session.id text with
      | (.panic, w) => (.panic, { c with world := w })
      | (.failure f, w) => (.failure (.native f), { c with world := w })
      | (.value (), w) =>
        let sent := session.handle ++ ": " ++ text
        (.value (), { c with
          world := { w with bridge := w.bridge.record .outbound .status sent } })

def leaveIfKnown (attended : Bool) (id? : Option SessionId) (w : World β) :
    Outcome NativeFailure Unit × World β :=
  match id? with
  | some id => w.leave attended id
  | none => (.value (), w)

def conclude (link : Link) (w : World β) : World β :=
  ((w.advance .disconnect).report .status
    ("Disconnected from " ++ link.target.wellKnownName link.sessionName)).publish .disconnected

/-- Leaves the session and releases its link. A session that could not be left stays as it is. -/
def disconnect (c : Controller β) : Outcome ControlError Unit × Controller β :=
  match c.state.isDisconnected, c.link with
  | true, _ => (.failure (.session .notConnected), c)
  | false, none => (.failure (.session .notConnected), c)
  | false, some link =>
    match leaveIfKnown true c.state.sessionId? c.world with
    | (.panic, w) => (.panic, { c with world := w })
    | (.failure f, w) => (.failure (.native f), { c with world := w })
    | (.value (), w) =>
      match w.clearCallbacks true with
      | (.panic, w) => (.panic, { c with world := w })
      | (.value (), w) =>
        (.value (), { c with world := (conclude link w).releaseAnchor link.anchor, link := none })
      | (.failure f, w) =>
        (.failure (.native f),
          { c with world := (conclude link w).leakAnchor link.anchor, link := none })

/-- Gives the controller up. An open session is left without a word in the transcript, and failures
have nobody to go to; a panic releases the link at once. Handlers deliver through the controller, so
they are muted before anything else. Tells whether the bus panicked. -/
def release (c : Controller β) : Bool × World β :=
  let w := { c.world with bridge := c.world.bridge.mute }
  match c.link with
  | none => (false, w)
  | some link =>
    match leaveIfKnown false c.state.sessionId? w with
    | (.panic, w) => (true, w.releaseAnchor link.anchor)
    | (_, w) =>
      match w.clearCallbacks false with
      | (.panic, w) => (true, w.releaseAnchor link.anchor)
      | (.value (), w) => (false, w.releaseAnchor link.anchor)
      | (.failure _, w) => (false, w.leakAnchor link.anchor)

end Controller

end SessionBridge
