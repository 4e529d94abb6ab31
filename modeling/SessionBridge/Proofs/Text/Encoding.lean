import SessionBridge.Text.Utf8

/-! Encodings of characters, byte by byte. A table of byte ranges gives exactly the encodings; no encoding
is the start of another one, and only the zero character is encoded with a zero byte. -/
namespace SessionBridge.Utf8

open String (utf8EncodeChar)

/-! ### The table of well-formed sequences -/

def Within (lower upper : Nat) (b : UInt8) : Prop :=
  lower ≤ b.toNat ∧ b.toNat ≤ upper

/-- The second byte of a longer sequence. Behind four first bytes it is bounded more tightly, which keeps
out overlong forms, surrogates and numbers past U+10FFFF. -/
structure Second (a b : UInt8) : Prop where
  tail : Within 0x80 0xBF b
  overlongThree : a.toNat = 0xE0 → 0xA0 ≤ b.toNat
  surrogate : a.toNat = 0xED → b.toNat ≤ 0x9F
  overlongFour : a.toNat = 0xF0 → 0x90 ≤ b.toNat
  tooLarge : a.toNat = 0xF4 → b.toNat ≤ 0x8F

/-- The well-formed sequences, each with the number of its character. -/
inductive Sequence : List UInt8 → Nat → Prop where
  | one {a : UInt8} (ha : Within 0x00 0x7F a) : Sequence [a] a.toNat
  | two {a b : UInt8} (ha : Within 0xC2 0xDF a) (hb : Within 0x80 0xBF b) :
      Sequence [a, b] (a.toNat % 0x20 * 0x40 + b.toNat % 0x40)
  | three {a b c : UInt8} (ha : Within 0xE0 0xEF a) (hb : Second a b) (hc : Within 0x80 0xBF c) :
      Sequence [a, b, c] ((a.toNat % 0x10 * 0x40 + b.toNat % 0x40) * 0x40 + c.toNat % 0x40)
  | four {a b c d : UInt8} (ha : Within 0xF0 0xF4 a) (hb : Second a b) (hc : Within 0x80 0xBF c)
      (hd : Within 0x80 0xBF d) :
      Sequence [a, b, c, d]
        (((a.toNat % 0x08 * 0x40 + b.toNat % 0x40) * 0x40 + c.toNat % 0x40) * 0x40 + d.toNat % 0x40)

variable {bytes : List UInt8} {n : Nat}

theorem Sequence.isValidChar (h : Sequence bytes n) : n.isValidChar := by
  unfold Nat.isValidChar
  cases h with
  | one ha =>
    unfold Within at ha
    omega
  | two ha hb =>
    unfold Within at ha hb
    omega
  | three ha hb hc =>
    obtain ⟨hb, hlower, hupper, -, -⟩ := hb
    unfold Within at ha hb hc
    omega
  | four ha hb hc hd =>
    obtain ⟨hb, -, -, hlower, hupper⟩ := hb
    unfold Within at ha hb hc hd
    omega

theorem ofNat_eq_byte {b : UInt8} (h : n = b.toNat) : UInt8.ofNat n = b := by
  rw [h, UInt8.ofNat_toNat]

theorem Sequence.encodeChar (h : Sequence bytes n) : utf8EncodeChar (Char.ofNat n) = bytes := by
  have hval : (Char.ofNat n).val.toNat = n := by
    rw [Char.ofNat, dif_pos h.isValidChar]
    rfl
  unfold utf8EncodeChar
  rw [hval]
  dsimp only
  cases h with
  | one ha => rw [if_pos ha.2, ofNat_eq_byte rfl]
  | @two a b ha hb =>
    unfold Within at ha hb
    rw [if_neg (by omega), if_pos (by omega), ofNat_eq_byte (b := a) (by omega),
      ofNat_eq_byte (b := b) (by omega)]
  | @three a b c ha hb hc =>
    obtain ⟨hb, hlower, -, -, -⟩ := hb
    unfold Within at ha hb hc
    rw [if_neg (by omega), if_neg (by omega), if_pos (by omega), ofNat_eq_byte (b := a) (by omega),
      ofNat_eq_byte (b := b) (by omega), ofNat_eq_byte (b := c) (by omega)]
  | @four a b c d ha hb hc hd =>
    obtain ⟨hb, -, -, hlower, -⟩ := hb
    unfold Within at ha hb hc hd
    rw [if_neg (by omega), if_neg (by omega), if_neg (by omega), ofNat_eq_byte (b := a) (by omega),
      ofNat_eq_byte (b := b) (by omega), ofNat_eq_byte (b := c) (by omega),
      ofNat_eq_byte (b := d) (by omega)]

theorem sequence_encodeChar (c : Char) : Sequence (utf8EncodeChar c) c.toNat := by
  have hvalid : c.val.toNat < 0xD800 ∨ (0xDFFF < c.val.toNat ∧ c.val.toNat < 0x110000) := c.valid
  have hbyte {n : Nat} (h : n < 256) : (UInt8.ofNat n).toNat = n := UInt8.toNat_ofNat_of_lt h
  change Sequence (utf8EncodeChar c) c.val.toNat
  unfold utf8EncodeChar
  generalize c.val.toNat = v at hvalid
  dsimp only
  split
  · have ha := hbyte (show v < 256 by omega)
    refine cast (congrArg _ ha) (Sequence.one ?_)
    unfold Within
    omega
  split
  · have ha := hbyte (show v / 64 % 0x20 + 0xC0 < 256 by omega)
    have hb := hbyte (show v % 0x40 + 0x80 < 256 by omega)
    refine cast (congrArg _ ?_) (Sequence.two ?_ ?_)
    all_goals try unfold Within
    all_goals omega
  split
  · have ha := hbyte (show v / 4096 % 0x10 + 0xE0 < 256 by omega)
    have hb := hbyte (show v / 64 % 0x40 + 0x80 < 256 by omega)
    have hc := hbyte (show v % 0x40 + 0x80 < 256 by omega)
    refine cast (congrArg _ ?_) (Sequence.three ?_ ⟨?_, ?_, ?_, ?_, ?_⟩ ?_)
    all_goals try unfold Within
    all_goals omega
  · have ha := hbyte (show v / 262144 % 0x08 + 0xF0 < 256 by omega)
    have hb := hbyte (show v / 4096 % 0x40 + 0x80 < 256 by omega)
    have hc := hbyte (show v / 64 % 0x40 + 0x80 < 256 by omega)
    have hd := hbyte (show v % 0x40 + 0x80 < 256 by omega)
    refine cast (congrArg _ ?_) (Sequence.four ?_ ⟨?_, ?_, ?_, ?_, ?_⟩ ?_ ?_)
    all_goals try unfold Within
    all_goals omega

/-! ### Zero bytes -/

theorem Sequence.eq_zero_of_mem (h : Sequence bytes n) (hmem : 0 ∈ bytes) : n = 0 := by
  have hzero {lower upper : Nat} (hlower : 0 < lower) : ¬Within lower upper 0 :=
    fun h => Nat.not_lt_of_le h.1 hlower
  cases h with
  | one ha =>
    obtain rfl := List.mem_singleton.mp hmem
    rfl
  | two ha hb =>
    simp only [List.mem_cons, List.not_mem_nil, or_false] at hmem
    rcases hmem with rfl | rfl
    · exact absurd ha (hzero (by decide))
    · exact absurd hb (hzero (by decide))
  | three ha hb hc =>
    simp only [List.mem_cons, List.not_mem_nil, or_false] at hmem
    rcases hmem with rfl | rfl | rfl
    · exact absurd ha (hzero (by decide))
    · exact absurd hb.tail (hzero (by decide))
    · exact absurd hc (hzero (by decide))
  | four ha hb hc hd =>
    simp only [List.mem_cons, List.not_mem_nil, or_false] at hmem
    rcases hmem with rfl | rfl | rfl | rfl
    · exact absurd ha (hzero (by decide))
    · exact absurd hb.tail (hzero (by decide))
    · exact absurd hc (hzero (by decide))
    · exact absurd hd (hzero (by decide))

theorem zero_mem_encodeChar_iff {c : Char} : 0 ∈ utf8EncodeChar c ↔ c = '\x00' := by
  constructor
  · intro hmem
    exact Char.toNat_inj.mp ((sequence_encodeChar c).eq_zero_of_mem hmem)
  · rintro rfl
    decide

theorem zero_mem_encode_iff {cs : List Char} : 0 ∈ encode cs ↔ '\x00' ∈ cs := by
  simp only [encode, List.mem_flatMap, zero_mem_encodeChar_iff, exists_eq_right]

/-! ### Encodings in a row -/

theorem encodeChar_ne_nil (c : Char) : utf8EncodeChar c ≠ [] := by
  have hpos := c.utf8Size_pos
  rw [← String.length_utf8EncodeChar] at hpos
  exact List.ne_nil_of_length_pos hpos

/-- Where an encoding starts, no other one does. -/
theorem encodeChar_append_inj {c d : Char} {rest rest' : List UInt8}
    (h : utf8EncodeChar c ++ rest = utf8EncodeChar d ++ rest') : c = d ∧ rest = rest' := by
  have hc := @ByteArray.utf8DecodeChar?_utf8EncodeChar_append rest.toByteArray c
  have hd := @ByteArray.utf8DecodeChar?_utf8EncodeChar_append rest'.toByteArray d
  rw [← List.toByteArray_append] at hc hd
  rw [h, hd] at hc
  obtain rfl := Option.some.inj hc
  exact ⟨rfl, List.append_cancel_left h⟩

theorem encode_cons (c : Char) (cs : List Char) : encode (c :: cs) = utf8EncodeChar c ++ encode cs :=
  rfl

theorem isValidUTF8_iff : bytes.toByteArray.IsValidUTF8 ↔ ∃ cs, encode cs = bytes := by
  constructor
  · rintro ⟨cs, hcs⟩
    exact ⟨cs, (List.toByteArray_inj.mp hcs).symm⟩
  · rintro ⟨cs, rfl⟩
    exact ⟨cs, rfl⟩

theorem length_ofString (s : String) : (ofString s).length = s.utf8ByteSize := by
  rw [ofString, ← s.size_toByteArray, ← String.ofList_toList (s := s), String.toByteArray_ofList,
    List.utf8Encode, List.size_toByteArray, String.toList_ofList]
  rfl

end SessionBridge.Utf8
