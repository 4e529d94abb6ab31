import SessionBridge.Bridge.Handlers
import SessionBridge.Journal
import SessionBridge.Session.Transition

/-! The bridge is what callbacks reach: the journal, the registry, the session state and the display
handlers. Each callback is a short sequence of steps; a handler that crashes ends the sequence, and
the crash becomes a line of the transcript. -/
namespace SessionBridge

structure Bridge where
  journal : Journal
  registry : Registry
  state : SessionState
  handlers : Option Handlers
  /-- How many sessions have been established so far. -/
  established : Nat
  /-- Every call of a handler, in order. -/
  shown : Array Showing
  /-- The reading of the clock that new records are stamped with. -/
  clock : Timestamp

namespace Bridge

def start (feed : Feed) (now : Timestamp) (opened : String) : Bridge where
  journal := .start feed now opened
  registry := .empty
  state := .disconnected
  handlers := none
  established := 0
  shown := #[]
  clock := now

/-- A bridge with a feed for at least `feedSize` events, if there can be one. A size of zero is taken
for one. -/
def ofSize? (feedSize : Nat) (now : Timestamp) (opened : String) : Option Bridge :=
  (Feed.ofSize? (max 1 feedSize)).map fun feed => start feed now opened

def transcript (b : Bridge) : Transcript :=
  b.journal.transcript

def feed (b : Bridge) : Feed :=
  b.journal.feed

/-! ### Steps -/

def line (b : Bridge) (origin : Origin) (kind : InformType) (text : String) : Line :=
  ⟨b.clock, origin, kind, text⟩

def record (b : Bridge) (origin : Origin) (kind : InformType) (text : String) : Bridge :=
  { b with journal := b.journal.append (b.line origin kind text) }

def report (b : Bridge) (kind : InformType) (text : String) : Bridge :=
  b.record .system kind text

def publish (b : Bridge) (e : BridgeEvent) : Bridge :=
  { b with journal := b.journal.publish e }

def register (b : Bridge) (name : String) : Option Participant × Bridge :=
  let (joined?, registry) := b.registry.register name b.clock
  (joined?, { b with registry })

def announceParticipant (b : Bridge) (p : Participant) : Bridge :=
  (b.report .status (p.name ++ " joined")).publish (.participantJoined p)

def announceSession (b : Bridge) (s : Session) (stateName : String) : Bridge :=
  ({ b with established := b.established + 1 }.report .status
    ("Session " ++ s.id.text ++ " established as " ++ stateName)).publish (.sessionEstablished s)

/-- Gives the session an event; a session that it establishes is reported. -/
def apply (b : Bridge) (e : SessionEvent) : Except Rejection Transition × Bridge :=
  match b.state.transition b.clock e with
  | .error r => (.error r, b)
  | .ok t =>
    let b := { b with state := t.newState }
    match t.materialized with
    | none => (.ok t, b)
    | some s => (.ok t, b.announceSession s t.newState.name)

/-- Gives the session an event and lets a rejection pass. -/
def advance (b : Bridge) (e : SessionEvent) : Bridge :=
  (b.apply e).2

/-! ### Display handlers -/

def isInstalled (b : Bridge) : Bool :=
  b.handlers.isSome

/-- The first pair of handlers stays for good. -/
def install (b : Bridge) (h : Handlers) : Installation × Bridge :=
  match b.handlers with
  | some _ => (.alreadyInstalled, b)
  | none => (.installed, { b with handlers := some h })

/-- Handlers stay to be shown everything, but deliver nothing themselves from now on. -/
def mute (b : Bridge) : Bridge :=
  { b with handlers := b.handlers.map Handlers.muted }

def showed (b : Bridge) (s : Showing) : Bridge :=
  { b with shown := b.shown.push s }

def showMessage (b : Bridge) (e : Entry) : Option Crash × Bridge :=
  match b.handlers with
  | none => (none, b)
  | some h => (h.onMessage e, b.showed (.message e))

def recordFault (b : Bridge) (f : CallbackFault) : Bridge :=
  b.report .error f.message

def contain (callback : EntryPoint) (result : Option Crash × Bridge) : Bridge :=
  match result with
  | (none, b) => b
  | (some crash, b) => b.recordFault (.panicked callback.name crash.message)

/-! ### Deliveries -/

def acceptMessage (b : Bridge) (text : String) (code : Int32) : Option Crash × Bridge :=
  let line := b.line .inbound (.ofCode code) text
  { b with journal := b.journal.append line }.showMessage (b.transcript.place line)

def deliverMessage (b : Bridge) (text : String) (code : Int32) : Bridge :=
  contain .message (b.acceptMessage text code)

def showParticipant (b : Bridge) (p : Participant) : Option Crash × Bridge :=
  match b.handlers with
  | none => (none, b)
  | some h =>
    let reaction := h.onParticipant p
    let b := reaction.echoes.foldl (fun b echo => b.deliverMessage echo.1 echo.2) b
    (reaction.crash, b.showed (.participant p))

/-- Registers a participant, reports and shows a new one, then tells the session, whether the
participant was new or not. -/
def acceptParticipant (b : Bridge) (name : String) : Option Crash × Bridge :=
  match b.register name with
  | (none, b) => (none, b.advance .participantJoined)
  | (some p, b) =>
    match (b.announceParticipant p).showParticipant p with
    | (some crash, b) => (some crash, b)
    | (none, b) => (none, b.advance .participantJoined)

def deliverParticipant (b : Bridge) (name : String) : Bridge :=
  contain .participant (b.acceptParticipant name)

end Bridge

end SessionBridge
