import SessionBridge.Text.Unprintable

/-! Quoted text: a text between double quotes in which every character that could end it early, or
that a reader could not see, is escaped. Different texts have different quoted forms. -/
namespace SessionBridge.Text

/-- An unprintable character is written by its number in lower-case hexadecimal, without padding,
between braces. -/
def escapeByNumber (c : Char) : List Char :=
  ['\\', 'u', '\x7b'] ++ Nat.toDigits 16 c.toNat ++ ['\x7d']

def escapeChar (c : Char) : List Char :=
  if c = '\\' then ['\\', '\\']
  else if c = '"' then ['\\', '"']
  else if c = '\n' then ['\\', 'n']
  else if c = '\r' then ['\\', 'r']
  else if c = '\t' then ['\\', 't']
  else if c = '\x00' then ['\\', '0']
  else if isUnprintable c then escapeByNumber c
  else [c]

def escape (cs : List Char) : List Char :=
  cs.flatMap escapeChar

def quote (s : String) : String :=
  String.ofList ('"' :: escape s.toList ++ ['"'])

end SessionBridge.Text
