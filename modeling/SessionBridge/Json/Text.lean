import SessionBridge.Json.Value
import SessionBridge.Text.Decimal
import SessionBridge.Text.Hexadecimal
import SessionBridge.Text.Reader

/-! JSON as text. Reading accepts the JSON grammar with a bound on the nesting and takes the last of
several members of one name; writing leaves out all blanks and escapes no more than it has to. -/
namespace SessionBridge.Json

open Text (Reader many)

/-! ### Reading -/

def depthLimit : Nat := 127

def isSpace (c : Char) : Bool :=
  c == ' ' || c == '\t' || c == '\n' || c == '\r'

def mark (c : Char) : Reader Unit := fun cs =>
  match cs.dropWhile isSpace with
  | d :: rest => if d = c then some ((), rest) else none
  | [] => none

def readUnit : Reader Nat
  | a :: b :: c :: d :: rest => (Text.hexValue? [a, b, c, d]).map fun n => (n, rest)
  | _ => none

def readNumbered : Reader Char := fun cs => do
  let (n, rest) ← readUnit cs
  if n.isValidChar then some (Char.ofNat n, rest)
  else match rest with
    | '\\' :: 'u' :: rest => do
      let (low, rest) ← readUnit rest
      if n < 0xDC00 ∧ 0xDC00 ≤ low ∧ low < 0xE000 then
        some (Char.ofNat (0x10000 + (n - 0xD800) * 0x400 + (low - 0xDC00)), rest)
      else none
    | _ => none

def readChar : Reader Char
  | '\\' :: '"' :: rest => some ('"', rest)
  | '\\' :: '\\' :: rest => some ('\\', rest)
  | '\\' :: '/' :: rest => some ('/', rest)
  | '\\' :: 'b' :: rest => some ('\x08', rest)
  | '\\' :: 'f' :: rest => some ('\x0c', rest)
  | '\\' :: 'n' :: rest => some ('\n', rest)
  | '\\' :: 'r' :: rest => some ('\r', rest)
  | '\\' :: 't' :: rest => some ('\t', rest)
  | '\\' :: 'u' :: rest => readNumbered rest
  | '\\' :: _ => none
  | '"' :: _ => none
  | c :: rest => if c < ' ' then none else some (c, rest)
  | [] => none

/-- A string with blanks in front of it. Like all readers here it is given a bound on the number of
items in one go, which the length of the whole text is. -/
def readString (size : Nat) : Reader String := fun cs => do
  let (_, cs) ← mark '"' cs
  let (text, rest) := many readChar size cs
  let (_, rest) ← mark '"' rest
  some (String.ofList text, rest)

def readFraction : Reader (List Char)
  | '.' :: cs =>
    let ds := cs.takeWhile Char.isDigit
    if ds.isEmpty then none else some ('.' :: ds, cs.dropWhile Char.isDigit)
  | cs => some ([], cs)

def readExponent : Reader (List Char)
  | c :: cs =>
    if c = 'e' || c = 'E' then
      let (sign, cs) := match cs with
        | '+' :: rest => (['+'], rest)
        | '-' :: rest => (['-'], rest)
        | _ => ([], cs)
      let ds := cs.takeWhile Char.isDigit
      if ds.isEmpty then none else some (c :: sign ++ ds, cs.dropWhile Char.isDigit)
    else some ([], c :: cs)
  | [] => some ([], [])

def natOfDigits (ds : List Char) : Nat :=
  ds.foldl (fun n c => n * 10 + (c.toNat - '0'.toNat)) 0

/-- A number without fraction and exponent is an integer, unless it is the negative zero. -/
def readNumber : Reader Json := fun cs => do
  let (negative, cs) := match cs with
    | '-' :: rest => (true, rest)
    | _ => (false, cs)
  let whole := cs.takeWhile Char.isDigit
  if whole.isEmpty || (whole.head? = some '0' && 1 < whole.length) then none
  else
    let (fraction, rest) ← readFraction (cs.dropWhile Char.isDigit)
    let (exponent, rest) ← readExponent rest
    let n : Int := natOfDigits whole
    let isInteger := fraction.isEmpty && exponent.isEmpty && !(negative && n == 0)
    let sign := if negative then ['-'] else []
    some (if isInteger then integer (if negative then -n else n)
      else real (String.ofList (sign ++ whole ++ fraction ++ exponent)), rest)

def readItems (item : Reader α) (close : Char) (size : Nat) : Reader (List α) := fun cs =>
  match mark close cs with
  | some (_, rest) => some ([], rest)
  | none => do
    let (first, rest) ← item cs
    let (others, rest) := many (fun cs => do item (← mark ',' cs).2) size rest
    let (_, rest) ← mark close rest
    some (first :: others, rest)

/-- Of several members with one name, the last counts. -/
def lastOfEach : List (String × Json) → List (String × Json)
  | [] => []
  | (name, j) :: members =>
    if members.any (·.1 == name) then lastOfEach members else (name, j) :: lastOfEach members

def readValue (size : Nat) : Nat → Reader Json
  | depth, cs =>
    match depth, cs.dropWhile isSpace with
    | _, 'n' :: 'u' :: 'l' :: 'l' :: rest => some (null, rest)
    | _, 't' :: 'r' :: 'u' :: 'e' :: rest => some (bool true, rest)
    | _, 'f' :: 'a' :: 'l' :: 's' :: 'e' :: rest => some (bool false, rest)
    | _, '"' :: rest => (readString size ('"' :: rest)).map fun (s, rest) => (string s, rest)
    | depth + 1, '[' :: rest =>
      (readItems (readValue size depth) ']' size rest).map fun (items, rest) => (array items, rest)
    | depth + 1, '\x7b' :: rest =>
      let member : Reader (String × Json) := fun cs => do
        let (name, rest) ← readString size cs
        let (_, rest) ← mark ':' rest
        let (j, rest) ← readValue size depth rest
        some ((name, j), rest)
      (readItems member '\x7d' size rest).map fun (members, rest) =>
        (object (lastOfEach members), rest)
    | _, cs => readNumber cs

def parse? (text : String) : Option Json :=
  let cs := text.toList
  match readValue cs.length depthLimit cs with
  | some (j, rest) => if rest.all isSpace then some j else none
  | none => none

/-! ### Writing -/

def escapeChar (c : Char) : List Char :=
  match c with
  | '"' => ['\\', '"']
  | '\\' => ['\\', '\\']
  | '\x08' => ['\\', 'b']
  | '\x0c' => ['\\', 'f']
  | '\n' => ['\\', 'n']
  | '\r' => ['\\', 'r']
  | '\t' => ['\\', 't']
  | c => if c < ' ' then ['\\', 'u'] ++ Text.hexDigits 4 c.toNat else [c]

def quoted (s : String) : List Char :=
  '"' :: s.toList.flatMap escapeChar ++ ['"']

def separated : List (List Char) → List Char
  | [] => []
  | [item] => item
  | item :: items => item ++ ',' :: separated items

mutual

def written : Json → List Char
  | null => ['n', 'u', 'l', 'l']
  | bool true => ['t', 'r', 'u', 'e']
  | bool false => ['f', 'a', 'l', 's', 'e']
  | integer i => Text.decimalDigits i
  | real lexeme => lexeme.toList
  | string s => quoted s
  | array items => '[' :: separated (writtenItems items) ++ [']']
  | object members => '\x7b' :: separated (writtenMembers members) ++ ['\x7d']

def writtenItems : List Json → List (List Char)
  | [] => []
  | j :: items => written j :: writtenItems items

def writtenMembers : List (String × Json) → List (List Char)
  | [] => []
  | (name, j) :: members => (quoted name ++ ':' :: written j) :: writtenMembers members

end

def text (j : Json) : String :=
  String.ofList (written j)

end SessionBridge.Json
