import SessionBridge.Json.Value

/-! The JSON form of a type: how a value is written, and which JSON is read back as a value. -/
namespace SessionBridge

class JsonForm (α : Type) where
  toJson : α → Json
  ofJson? : Json → Option α

export JsonForm (toJson ofJson?)

namespace Json

def int? : Json → Option Int
  | .integer i => some i
  | _ => none

def within? (lo hi : Int) (j : Json) : Option Int := do
  let i ← j.int?
  if lo ≤ i ∧ i ≤ hi then some i else none

def natBelow? (bound : Nat) (j : Json) : Option Nat :=
  (j.within? 0 (bound - 1 : Int)).map Int.toNat

def field? [JsonForm α] (f : String → Option Json) (name : String) : Option α :=
  f name >>= ofJson?

/-- A field that may be missing or null, which both read as `none`. -/
def optionalField? [JsonForm α] (f : String → Option Json) (name : String) : Option (Option α) :=
  match f name with
  | none => some none
  | some .null => some none
  | some j => (ofJson? j).map some

/-- A case without payload is its name; null counts as no payload. -/
def bareCase? (cases : List (String × α)) (j : Json) : Option α := do
  let (name, payload) ← j.case?
  match payload with
  | none | some .null => cases.lookup name
  | some _ => none

end Json

instance : JsonForm String where
  toJson := .string
  ofJson?
    | .string s => some s
    | _ => none

instance : JsonForm Bool where
  toJson := .bool
  ofJson?
    | .bool b => some b
    | _ => none

instance : JsonForm UInt16 where
  toJson n := .integer n.toNat
  ofJson? j := (j.natBelow? UInt16.size).map UInt16.ofNat

instance : JsonForm UInt32 where
  toJson n := .integer n.toNat
  ofJson? j := (j.natBelow? UInt32.size).map UInt32.ofNat

instance : JsonForm UInt64 where
  toJson n := .integer n.toNat
  ofJson? j := (j.natBelow? UInt64.size).map UInt64.ofNat

instance : JsonForm Int32 where
  toJson i := .integer i.toInt
  ofJson? j := (j.within? Int32.minValue.toInt Int32.maxValue.toInt).map Int32.ofInt

instance [JsonForm α] : JsonForm (Option α) where
  toJson
    | none => .null
    | some a => toJson a
  ofJson?
    | .null => some none
    | j => (ofJson? j).map some

instance [JsonForm α] : JsonForm (List α) where
  toJson items := .array (items.map toJson)
  ofJson?
    | .array items => items.mapM ofJson?
    | _ => none

end SessionBridge
