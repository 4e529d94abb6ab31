import SessionBridge.Text.Decimal
import SessionBridge.Timestamp

/-! The one chat session and the states it goes through. A session is established only when the bus
has given it an id and a first participant has been reported; until then it is an attempt that
remembers which of the two has happened. -/
namespace SessionBridge

structure SessionId where
  value : UInt32
  deriving DecidableEq, Inhabited

def SessionId.text (id : SessionId) : String :=
  Text.decimal id.value.toNat

/-- The owner advertises the session name; a joiner looks for it. -/
inductive SessionMode where
  | owner
  | joiner
  deriving DecidableEq, Inhabited

def SessionMode.role : SessionMode → String
  | .owner => "advertiser"
  | .joiner => "joiner"

def SessionMode.name : SessionMode → String
  | .owner => "Owner"
  | .joiner => "Joiner"

structure Session where
  mode : SessionMode
  id : SessionId
  name : String
  handle : String
  establishedAt : Timestamp
  deriving DecidableEq

structure Attempt where
  mode : SessionMode
  sessionName : String
  handle : String
  sessionId : Option SessionId
  joinedEarly : Bool
  startedAt : Timestamp
  deriving DecidableEq

inductive SessionState where
  | disconnected
  | connecting (attempt : Attempt)
  | owner (session : Session)
  | joined (session : Session)
  deriving DecidableEq, Inhabited

def Attempt.establish (a : Attempt) (id : SessionId) (now : Timestamp) : Session :=
  ⟨a.mode, id, a.sessionName, a.handle, now⟩

namespace SessionState

def name : SessionState → String
  | disconnected => "Disconnected"
  | connecting _ => "Connecting"
  | owner _ => "Owner"
  | joined _ => "Joined"

/-- The state of an established session is named after its mode. -/
def established (s : Session) : SessionState :=
  match s.mode with
  | .owner => owner s
  | .joiner => joined s

def session? : SessionState → Option Session
  | owner s | joined s => some s
  | disconnected | connecting _ => none

/-- The id the bus knows the session by, established or not. -/
def sessionId? : SessionState → Option SessionId
  | disconnected => none
  | connecting a => a.sessionId
  | owner s | joined s => some s.id

def isDisconnected : SessionState → Bool
  | disconnected => true
  | _ => false

def canSend (s : SessionState) : Bool :=
  s.session?.isSome

@[simp] theorem session?_established (s : Session) : (established s).session? = some s := by
  unfold established; split <;> rfl

end SessionState

end SessionBridge
