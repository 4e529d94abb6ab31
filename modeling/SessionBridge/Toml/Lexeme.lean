import SessionBridge.Text.Hexadecimal
import SessionBridge.Text.Reader
import SessionBridge.Toml.Value

/-! The smallest parts of a TOML document: blanks and comments, keys, strings, numbers and dates. A
reader takes characters from the front and gives back the rest, or refuses. -/
namespace SessionBridge.Toml

open Text (Reader many hexValue? hexDigitValue?)

/-! ### Blanks and comments -/

def isSpace (c : Char) : Bool :=
  c == ' ' || c == '\t'

def skipSpaces (cs : List Char) : List Char :=
  cs.dropWhile isSpace

def isPlain (c : Char) : Bool :=
  c == '\t' || (' ' ≤ c && c ≠ '\x7f')

def newline? : List Char → Option (List Char)
  | '\n' :: rest => some rest
  | '\r' :: '\n' :: rest => some rest
  | _ => none

def skipComment : List Char → List Char
  | '#' :: rest => rest.dropWhile isPlain
  | cs => cs

/-- What may stand behind a statement: blanks and a comment, up to the end of the line. -/
def endLine? (cs : List Char) : Option (List Char) :=
  match skipComment (skipSpaces cs) with
  | [] => some []
  | rest => newline? rest

def skipTrivia (inComment : Bool) : List Char → List Char
  | [] => []
  | '\n' :: rest => skipTrivia false rest
  | '\r' :: '\n' :: rest => skipTrivia false rest
  | c :: rest =>
    if inComment then if isPlain c then skipTrivia true rest else c :: rest
    else if isSpace c then skipTrivia false rest
    else if c = '#' then skipTrivia true rest
    else c :: rest

/-! ### Strings -/

def charOfHex? (digits : List Char) : Option Char := do
  let n ← hexValue? digits
  if n.isValidChar then some (Char.ofNat n) else none

def numbered (width : Nat) : Reader Char := fun cs => do
  let digits := cs.take width
  if digits.length < width then none
  else some (← charOfHex? digits, cs.drop width)

def escaped : Reader Char
  | 'b' :: rest => some ('\x08', rest)
  | 't' :: rest => some ('\t', rest)
  | 'n' :: rest => some ('\n', rest)
  | 'f' :: rest => some ('\x0c', rest)
  | 'r' :: rest => some ('\r', rest)
  | '"' :: rest => some ('"', rest)
  | '\\' :: rest => some ('\\', rest)
  | 'u' :: rest => numbered 4 rest
  | 'U' :: rest => numbered 8 rest
  | _ => none

def basicPiece : Reader (List Char)
  | '\\' :: rest => (escaped rest).map fun (c, rest) => ([c], rest)
  | '"' :: _ => none
  | c :: rest => if isPlain c then some ([c], rest) else none
  | [] => none

def skipBlankLines : List Char → List Char
  | [] => []
  | '\n' :: rest => skipBlankLines rest
  | '\r' :: '\n' :: rest => skipBlankLines rest
  | c :: rest => if isSpace c then skipBlankLines rest else c :: rest

/-- A backslash at the end of a line takes the line end and all blanks that follow away. -/
def joinLines? (cs : List Char) : Option (List Char) :=
  (newline? (skipSpaces cs)).map skipBlankLines

/-- A piece of a string over several lines in double quotes: up to two quotes may stand in it. -/
def basicLinesPiece : Reader (List Char)
  | '"' :: '"' :: '"' :: _ => none
  | '"' :: rest => some (['"'], rest)
  | '\\' :: rest =>
    match joinLines? rest with
    | some rest => some ([], rest)
    | none => (escaped rest).map fun (c, rest) => ([c], rest)
  | cs =>
    match newline? cs, cs with
    | some rest, _ => some (['\n'], rest)
    | none, c :: rest => if isPlain c then some ([c], rest) else none
    | none, [] => none

def literalPiece : Reader (List Char)
  | '\'' :: _ => none
  | c :: rest => if isPlain c then some ([c], rest) else none
  | [] => none

def literalLinesPiece : Reader (List Char)
  | '\'' :: '\'' :: '\'' :: _ => none
  | '\'' :: rest => some (['\''], rest)
  | cs =>
    match newline? cs, cs with
    | some rest, _ => some (['\n'], rest)
    | none, c :: rest => if isPlain c then some ([c], rest) else none
    | none, [] => none

def closeLines (quote : Char) (cs : List Char) : Option (List Char × List Char) :=
  let quotes := (cs.takeWhile (· == quote)).length
  if quotes < 3 then none
  else some (List.replicate (min quotes 5 - 3) quote, cs.drop (min quotes 5))

def pieces (piece : Reader (List Char)) (cs : List Char) : List Char × List Char :=
  let (parts, rest) := many piece cs.length cs
  (parts.flatten, rest)

def stringRest (quote : Char) (piece : Reader (List Char)) : Reader String := fun cs =>
  match pieces piece cs with
  | (text, c :: rest) => if c = quote then some (String.ofList text, rest) else none
  | (_, []) => none

/-- The rest of a string over several lines. A line end right behind the opening quotes is dropped. -/
def linesRest (quote : Char) (piece : Reader (List Char)) : Reader String := fun cs => do
  let (text, rest) := pieces piece ((newline? cs).getD cs)
  let (quotes, rest) ← closeLines quote rest
  some (String.ofList (text ++ quotes), rest)

def lineString : Reader String
  | '"' :: rest => stringRest '"' basicPiece rest
  | '\'' :: rest => stringRest '\'' literalPiece rest
  | _ => none

def anyString : Reader String
  | '"' :: '"' :: '"' :: rest => linesRest '"' basicLinesPiece rest
  | '\'' :: '\'' :: '\'' :: rest => linesRest '\'' literalLinesPiece rest
  | cs => lineString cs

/-! ### Keys -/

def isBare (c : Char) : Bool :=
  c.isAlphanum || c == '_' || c == '-'

def simpleKey : Reader String
  | '"' :: rest => lineString ('"' :: rest)
  | '\'' :: rest => lineString ('\'' :: rest)
  | cs =>
    match cs.takeWhile isBare with
    | [] => none
    | key => some (String.ofList key, cs.dropWhile isBare)

def keyParts : Nat → Reader (List String)
  | 0, _ => none
  | fuel + 1, cs => do
    let (key, rest) ← simpleKey (skipSpaces cs)
    match skipSpaces rest with
    | '.' :: rest =>
      let (keys, rest) ← keyParts fuel rest
      some (key :: keys, rest)
    | rest => some ([key], rest)

/-- Arrays, inline tables and keys nest or run less deep than this. -/
def depthLimit : Nat := 80

def keyPath : Reader (List String) := fun cs => do
  let (path, rest) ← keyParts cs.length cs
  if path.length < depthLimit then some (path, rest) else none

/-! ### Numbers and dates -/

/-- Digits in groups between single underscores; gives them without the underscores. -/
def grouped? (isDigit : Char → Bool) (cs : List Char) : Option (List Char) :=
  let groups := cs.splitOn '_'
  if groups.all fun g => !g.isEmpty && g.all isDigit then some groups.flatten else none

def natOf (base : Nat) (digits : List Char) : Nat :=
  digits.foldl (fun n c => n * base + ((hexDigitValue? c).getD 0)) 0

def unsigned : List Char → Bool × List Char
  | '-' :: cs => (true, cs)
  | '+' :: cs => (false, cs)
  | cs => (false, cs)

def decimalDigits? (cs : List Char) : Option (List Char) :=
  match cs with
  | ['0'] => some ['0']
  | '0' :: _ => none
  | _ => grouped? Char.isDigit cs

def isHexDigit (c : Char) : Bool := (hexDigitValue? c).isSome
def isOctalDigit (c : Char) : Bool := '0' ≤ c && c ≤ '7'
def isBinaryDigit (c : Char) : Bool := c == '0' || c == '1'

def signedInteger? (cs : List Char) : Option Int := do
  let (negative, cs) := unsigned cs
  let n := natOf 10 (← decimalDigits? cs)
  some (if negative then -n else n)

/-- An integer of 64 bits, in decimal with a sign or in another base without one. -/
def integer? (cs : List Char) : Option Int := do
  let i ← match cs with
    | '0' :: 'x' :: cs => (grouped? isHexDigit cs).map fun ds => (natOf 16 ds : Int)
    | '0' :: 'o' :: cs => (grouped? isOctalDigit cs).map fun ds => (natOf 8 ds : Int)
    | '0' :: 'b' :: cs => (grouped? isBinaryDigit cs).map fun ds => (natOf 2 ds : Int)
    | cs => signedInteger? cs
  if Int64.minValue.toInt ≤ i && i ≤ Int64.maxValue.toInt then some i else none

/-- The least number that rounds to infinity in double precision. -/
def floatBound : Nat :=
  Nat.pow 2 1024 - Nat.pow 2 970

/-- Whether `mantissa` times ten to `exponent` is too large for a double-precision number. The exact
comparison is left to the few magnitudes near the bound. -/
def overflows (mantissa : Nat) (exponent : Int) : Bool :=
  let magnitude : Int := (Nat.toDigits 10 mantissa).length + exponent
  if mantissa = 0 || magnitude < 309 then false
  else if 310 < magnitude then true
  else if 0 ≤ exponent then floatBound ≤ mantissa * Nat.pow 10 exponent.toNat
  else floatBound * Nat.pow 10 (-exponent).toNat ≤ mantissa

def isSpecialFloat (cs : List Char) : Bool :=
  let (_, cs) := unsigned cs
  cs = ['i', 'n', 'f'] || cs = ['n', 'a', 'n']

/-- A float has a fraction, an exponent, or both; one that rounds to positive infinity is refused. -/
def isFloat (cs : List Char) : Bool :=
  let isE (c : Char) : Bool := c == 'e' || c == 'E'
  let (negative, body) := unsigned cs
  let number := body.takeWhile (!isE ·)
  let tail := body.dropWhile (!isE ·)
  let whole := number.takeWhile (· ≠ '.')
  let fraction := number.dropWhile (· ≠ '.')
  let fraction? := match fraction with
    | [] => some []
    | _ :: cs => grouped? Char.isDigit cs
  let exponent? := match tail with
    | [] => some (false, [])
    | _ :: cs => (grouped? Char.isDigit (unsigned cs).2).map fun ds => ((unsigned cs).1, ds)
  match decimalDigits? whole, fraction?, exponent? with
  | some whole, some decimals, some (down, digits) =>
    let shift : Int := natOf 10 digits
    let exponent := (if down then -shift else shift) - decimals.length
    (!fraction.isEmpty || !tail.isEmpty) &&
      (negative || !overflows (natOf 10 (whole ++ decimals)) exponent)
  | _, _, _ => false

def twoDigits? : Reader Nat
  | a :: b :: rest => if a.isDigit && b.isDigit then some (natOf 10 [a, b], rest) else none
  | _ => none

def isLeapYear (year : Nat) : Bool :=
  year % 4 = 0 && (year % 100 ≠ 0 || year % 400 = 0)

def daysInMonth (year month : Nat) : Nat :=
  if month = 2 then if isLeapYear year then 29 else 28
  else if month = 4 || month = 6 || month = 9 || month = 11 then 30
  else 31

def date? (cs : List Char) : Option (List Char) := do
  let (century, rest) ← twoDigits? cs
  let (year, rest) ← twoDigits? rest
  let '-' :: rest := rest | none
  let (month, rest) ← twoDigits? rest
  let '-' :: rest := rest | none
  let (day, rest) ← twoDigits? rest
  let year := century * 100 + year
  if 1 ≤ month && month ≤ 12 && 1 ≤ day && day ≤ daysInMonth year month then some rest else none

def skipFraction? : List Char → Option (List Char)
  | '.' :: rest =>
    if (rest.takeWhile Char.isDigit).isEmpty then none else some (rest.dropWhile Char.isDigit)
  | rest => some rest

def time? (cs : List Char) : Option (List Char) := do
  let (hour, rest) ← twoDigits? cs
  let ':' :: rest := rest | none
  let (minute, rest) ← twoDigits? rest
  let ':' :: rest := rest | none
  let (second, rest) ← twoDigits? rest
  if hour < 24 && minute < 60 && second ≤ 60 then skipFraction? rest else none

def isOffset (cs : List Char) : Bool :=
  match cs with
  | [] => true
  | ['Z'] | ['z'] => true
  | sign :: rest => (sign == '+' || sign == '-') &&
    match twoDigits? rest with
    | some (hour, ':' :: rest) =>
      match twoDigits? rest with
      | some (minute, []) => hour < 24 && minute < 60
      | _ => false
    | _ => false

def isTime (cs : List Char) : Bool :=
  match time? cs with
  | some rest => rest.isEmpty
  | none => false

def isOffsetTime (cs : List Char) : Bool :=
  match time? cs with
  | some rest => isOffset rest
  | none => false

def isDateTime (cs : List Char) : Bool :=
  match date? cs with
  | some [] => true
  | some ('T' :: time) | some ('t' :: time) => isOffsetTime time
  | _ => false

def isWordChar (c : Char) : Bool :=
  c.isAlphanum || c == '+' || c == '-' || c == '_' || c == '.' || c == ':'

def wordValue? (w : List Char) : Option Toml :=
  if w = ['t', 'r', 'u', 'e'] then some (.boolean true)
  else if w = ['f', 'a', 'l', 's', 'e'] then some (.boolean false)
  else if isSpecialFloat w || isFloat w then some (.float (String.ofList w))
  else if isDateTime w || isTime w then some (.datetime (String.ofList w))
  else (integer? w).map .integer

def word : Reader Toml := fun cs => do
  let w := cs.takeWhile isWordChar
  let rest := cs.dropWhile isWordChar
  match date? w, rest with
  | some [], ' ' :: behind =>
    let time := behind.takeWhile isWordChar
    if isOffsetTime time then
      some (.datetime (String.ofList (w ++ ' ' :: time)), behind.dropWhile isWordChar)
    else some (← wordValue? w, rest)
  | _, _ => some (← wordValue? w, rest)

def scalar : Reader Toml
  | '"' :: rest => (anyString ('"' :: rest)).map fun (s, rest) => (.string s, rest)
  | '\'' :: rest => (anyString ('\'' :: rest)).map fun (s, rest) => (.string s, rest)
  | cs => word cs

end SessionBridge.Toml
