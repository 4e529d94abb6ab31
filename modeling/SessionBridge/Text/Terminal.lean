import SessionBridge.Text.Hexadecimal
import SessionBridge.Text.Quoted

/-! Text that goes to a terminal. The controls that a terminal could take for the start of a command
are written out, those of one byte by two digits and the others by their number; all other characters
go as they are, a line end among them. -/
namespace SessionBridge.Text

/-- The controls of one byte that are written out: bell, backspace, form feed, escape, delete. -/
def isTerminalByte (c : Char) : Bool :=
  c == '\x07' || c == '\x08' || c == '\x0c' || c == '\x1b' || c == '\x7f'

def isHighControl (c : Char) : Bool :=
  0x80 ≤ c.toNat && c.toNat ≤ 0x9F

def disarm (c : Char) : List Char :=
  if isTerminalByte c then ['\\', 'x'] ++ hexDigits 2 c.toNat
  else if isHighControl c then escapeByNumber c
  else [c]

def forTerminal (s : String) : String :=
  String.ofList (s.toList.flatMap disarm)

end SessionBridge.Text
