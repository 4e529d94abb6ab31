/-! A reader takes something from the front of a text and gives back the rest, or refuses. -/
namespace SessionBridge.Text

abbrev Reader (α : Type) := List Char → Option (α × List Char)

def manyBehind (item : Reader α) (found : List α) : Nat → List Char → List α × List Char
  | 0, cs => (found.reverse, cs)
  | fuel + 1, cs =>
    match item cs with
    | none => (found.reverse, cs)
    | some (a, rest) => manyBehind item (a :: found) fuel rest

/-- Reads as many items as there are; `fuel` bounds their number. -/
def many (item : Reader α) (fuel : Nat) (cs : List Char) : List α × List Char :=
  manyBehind item [] fuel cs

end SessionBridge.Text
