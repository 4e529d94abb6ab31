import SessionBridge.Text.Decimal
import SessionBridge.Timestamp

/-! One line of the transcript. A line is shown behind the number of its kind and a colon; since a
number holds no colon, the first one ends it. -/
namespace SessionBridge

/-- The kind the bus gives a line. Numbers without a name of their own are kept as they are. -/
inductive InformType where
  | error
  | remote
  | status
  | system
  | other (code : Int32)
  deriving DecidableEq, Inhabited

namespace InformType

def ofCode (code : Int32) : InformType :=
  if code = 0 then error
  else if code = 1 then remote
  else if code = 2 then status
  else if code = 3 then system
  else other code

def code : InformType → Int32
  | error => 0
  | remote => 1
  | status => 2
  | system => 3
  | other code => code

@[simp] theorem code_ofCode (c : Int32) : (ofCode c).code = c := by
  unfold ofCode
  split
  · simp_all [code]
  · split
    · simp_all [code]
    · split
      · simp_all [code]
      · split <;> simp_all [code]

end InformType

/-- Where a line came from: this side, the bus, or the local user. -/
inductive Origin where
  | system
  | inbound
  | outbound
  deriving DecidableEq, Inhabited

structure Line where
  timestamp : Timestamp
  origin : Origin
  kind : InformType
  text : String
  deriving DecidableEq, Inhabited

structure Entry extends Line where
  /-- The position in the transcript. -/
  sequence : Nat
  deriving DecidableEq, Inhabited

def Line.render (l : Line) : String :=
  Text.decimal l.kind.code.toInt ++ ":" ++ l.text

def Entry.render (e : Entry) : String :=
  e.toLine.render

end SessionBridge
