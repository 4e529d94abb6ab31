/-! UTF-8 read from bytes of unknown quality. The scanner keeps the sequence it is inside of and
the bounds on its next byte, so that overlong forms, surrogates and numbers past U+10FFFF break at
the first byte that cannot belong. A byte that breaks a sequence is read again as a first byte. -/
namespace SessionBridge.Utf8

structure Pending where
  missing : Nat
  bits : Nat
  lower : UInt8
  upper : UInt8
  deriving DecidableEq

/-- A character, or `none` for a broken sequence. -/
abbrev Piece := Option Char

def first (b : UInt8) : List Piece × Option Pending :=
  if b < 0x80 then ([some (Char.ofNat b.toNat)], none)
  else if b < 0xC2 then ([none], none)
  else if b < 0xE0 then ([], some ⟨1, b.toNat % 0x20, 0x80, 0xBF⟩)
  else if b < 0xF0 then
    ([], some ⟨2, b.toNat % 0x10, if b = 0xE0 then 0xA0 else 0x80, if b = 0xED then 0x9F else 0xBF⟩)
  else if b < 0xF5 then
    ([], some ⟨3, b.toNat % 0x08, if b = 0xF0 then 0x90 else 0x80, if b = 0xF4 then 0x8F else 0xBF⟩)
  else ([none], none)

/-- Reads one byte: the pieces it completes, and the sequence that is open after it. -/
def step (open? : Option Pending) (b : UInt8) : List Piece × Option Pending :=
  match open? with
  | none => first b
  | some p =>
    if p.lower ≤ b && b ≤ p.upper then
      let bits := p.bits * 0x40 + b.toNat % 0x40
      if p.missing ≤ 1 then ([some (Char.ofNat bits)], none)
      else ([], some ⟨p.missing - 1, bits, 0x80, 0xBF⟩)
    else
      let (pieces, next) := first b
      (none :: pieces, next)

def scan : Option Pending → List UInt8 → List Piece
  | none, [] => []
  | some _, [] => [none]
  | p, b :: bs => (step p b).1 ++ scan (step p b).2 bs

/-- Every broken piece becomes one replacement character. -/
def decodeLossy (bytes : List UInt8) : List Char :=
  (scan none bytes).map (·.getD '\uFFFD')

def decode? (bytes : List UInt8) : Option (List Char) :=
  (scan none bytes).mapM id

def encode (cs : List Char) : List UInt8 :=
  cs.flatMap String.utf8EncodeChar

def ofString (s : String) : List UInt8 :=
  encode s.toList

@[simp] theorem encode_nil : encode [] = [] := rfl

@[simp] theorem encode_append (cs ds : List Char) : encode (cs ++ ds) = encode cs ++ encode ds := by
  simp [encode]

end SessionBridge.Utf8
