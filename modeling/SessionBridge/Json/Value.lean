/-! JSON values as data. Members of an object keep their order, and a number written with a fraction
or an exponent is not an integer, whatever its value. -/
namespace SessionBridge

inductive Json where
  | null
  | bool (b : Bool)
  | integer (i : Int)
  /-- Any other number, by its text. -/
  | real (lexeme : String)
  | string (s : String)
  | array (items : List Json)
  | object (members : List (String × Json))
  deriving Inhabited

namespace Json

/-- The fields of a record, by name: written as an object, in which fields that are not asked for do
no harm, or as an array of exactly the fields in their order. -/
def fields? (names : List String) : Json → Option (String → Option Json)
  | .object members => some fun name => members.lookup name
  | .array items =>
    if items.length = names.length then some fun name => (names.zip items).lookup name else none
  | _ => none

def case? : Json → Option (String × Option Json)
  | .string name => some (name, none)
  | .object [(name, payload)] => some (name, some payload)
  | _ => none

end Json

end SessionBridge
