import Mathlib.Data.List.TakeWhile
import SessionBridge.Proofs.Bridge.Containment
import SessionBridge.Proofs.Text.Boundary
import SessionBridge.Proofs.Text.Scan

/-! What native text says. The bytes in front of the first zero byte, among as many as the size counts, fall
into characters and broken pieces; a text keeps the characters and has one replacement character for each
broken piece. So a size that ends inside a character costs that character and nothing else. -/
namespace SessionBridge.NativeText

open Utf8 (Pieces Fits IsBoundary encode mend)

structure Readable (t : NativeText) (buffer : List UInt8) : Prop where
  bytes : t.bytes = some buffer
  nonneg : 0 ≤ t.size.toInt
  size_le : t.size.toInt ≤ buffer.length

def counted (buffer : List UInt8) (size : Int32) : List UInt8 :=
  untilZero (buffer.take size.toInt.toNat)

variable {t u : NativeText} {bytes buffer : List UInt8} {s : String}

theorem Readable.size_not_neg (h : t.Readable buffer) : ¬t.size < 0 := by
  rw [Int32.lt_iff_toInt_lt]
  exact Int.not_lt.mpr h.nonneg

theorem Readable.decode (h : t.Readable buffer) (callback argument : String) :
    t.decode callback argument = .ok (String.ofList (Utf8.decodeLossy (counted buffer t.size))) :=
  decode_content h.bytes h.size_not_neg callback argument

theorem readable_of_size (hbytes : t.bytes = some bytes) (hsize : t.size.toInt = bytes.length) :
    t.Readable bytes :=
  ⟨hbytes, by omega, by omega⟩

theorem counted_of_size {size : Int32} (hsize : size.toInt = bytes.length) :
    counted bytes size = untilZero bytes := by
  rw [counted, hsize, Int.toNat_natCast, List.take_length]

/-! ### Zero bytes -/

theorem zero_not_mem_untilZero (bytes : List UInt8) : 0 ∉ untilZero bytes := by
  intro hmem
  have hzero := List.mem_takeWhile_imp hmem
  simp at hzero

theorem decide_ne_zero_of_mem (h : 0 ∉ bytes) : ∀ b ∈ bytes, decide (b ≠ 0) = true :=
  fun _ hmem => decide_eq_true (ne_of_mem_of_not_mem hmem h)

theorem untilZero_append (h : 0 ∉ bytes) (rest : List UInt8) :
    untilZero (bytes ++ rest) = bytes ++ untilZero rest :=
  List.takeWhile_append_of_pos (decide_ne_zero_of_mem h)

theorem untilZero_eq_self (h : 0 ∉ bytes) : untilZero bytes = bytes :=
  List.takeWhile_eq_self_iff.mpr (decide_ne_zero_of_mem h)

theorem zero_not_mem_ofString (h : '\x00' ∉ s.toList) : 0 ∉ Utf8.ofString s :=
  mt Utf8.zero_mem_encode_iff.mp h

/-! ### Whole texts -/

theorem decode_ofString (hs : '\x00' ∉ s.toList) (hbytes : t.bytes = some (Utf8.ofString s))
    (hsize : t.size.toInt = s.utf8ByteSize) (callback argument : String) :
    t.decode callback argument = .ok s := by
  rw [← Utf8.length_ofString] at hsize
  rw [(readable_of_size hbytes hsize).decode, counted_of_size hsize,
    untilZero_eq_self (zero_not_mem_ofString hs), Utf8.ofString, Utf8.decodeLossy_encode,
    String.ofList_toList]

theorem decode_ofString_append (hs : '\x00' ∉ s.toList) (ht : t.Readable buffer)
    (hbytes : u.bytes = some (Utf8.ofString s ++ buffer))
    (hsize : u.size.toInt = s.utf8ByteSize + t.size.toInt) (callback argument : String) :
    u.decode callback argument =
      .ok (s ++ String.ofList (Utf8.decodeLossy (counted buffer t.size))) := by
  have hnonneg := ht.nonneg
  have hle := ht.size_le
  rw [← Utf8.length_ofString] at hsize
  have hu : u.Readable (Utf8.ofString s ++ buffer) := by
    refine ⟨hbytes, by omega, ?_⟩
    rw [List.length_append]
    omega
  have htake : u.size.toInt.toNat = (Utf8.ofString s).length + t.size.toInt.toNat := by omega
  rw [hu.decode, counted, htake, List.take_length_add_append, untilZero_append (zero_not_mem_ofString hs),
    Utf8.ofString, Utf8.decodeLossy_encode_append, String.ofList_append, String.ofList_toList]
  rfl

/-- Native text of a size within its bytes is read, whatever the bytes are. It consists of the characters of
those that count, with one replacement character for each broken piece, and holds no zero character. Text
with the same bytes that count reads the same; what stands behind a text without zero characters reads as it
would alone. The bytes are lost exactly if they are not well-formed, and then a replacement character shows
it. A text is at most three times as long as its bytes, and its own encoding reads as the same text. -/
theorem decoding_restarts_at_characters (ht : t.Readable buffer) (callback argument : String) :
    ∃ text pieces, t.decode callback argument = .ok text ∧
      Pieces (counted buffer t.size) pieces ∧ text = String.ofList (mend pieces) ∧
      '\x00' ∉ text.toList ∧
      (∀ (u : NativeText) (other : List UInt8), u.Readable other →
        counted other u.size = counted buffer t.size →
        ∀ callback argument, u.decode callback argument = .ok text) ∧
      (∀ (s : String) (u : NativeText), '\x00' ∉ s.toList →
        u.bytes = some (Utf8.ofString s ++ buffer) → u.size.toInt = s.utf8ByteSize + t.size.toInt →
        u.decode callback argument = .ok (s ++ text)) ∧
      (Utf8.ofString text = counted buffer t.size ↔
        (counted buffer t.size).toByteArray.IsValidUTF8) ∧
      (¬(counted buffer t.size).toByteArray.IsValidUTF8 → '\uFFFD' ∈ text.toList) ∧
      text.utf8ByteSize ≤ 3 * (counted buffer t.size).length ∧
      ∀ u : NativeText, u.bytes = some (Utf8.ofString text) → u.size.toInt = text.utf8ByteSize →
        u.decode callback argument = .ok text := by
  have hpieces := Utf8.pieces_scan (counted buffer t.size)
  generalize hscan : Utf8.scan none (counted buffer t.size) = pieces at hpieces
  have hdecode := Utf8.decodeLossy_of_pieces hpieces
  have hencode : Utf8.ofString (String.ofList (mend pieces)) = encode (mend pieces) := by
    rw [Utf8.ofString, String.toList_ofList]
  have hzero : '\x00' ∉ (String.ofList (mend pieces)).toList := by
    rw [String.toList_ofList]
    exact hpieces.zero_not_mem_mend (zero_not_mem_untilZero _)
  have hvalid : ¬(counted buffer t.size).toByteArray.IsValidUTF8 → none ∈ pieces := fun hinvalid =>
    Classical.not_not.mp fun hwhole =>
      hinvalid (Utf8.isValidUTF8_iff.mpr ⟨mend pieces, hpieces.encode_mend hwhole⟩)
  refine ⟨String.ofList (mend pieces), pieces, ?_, hpieces, rfl, hzero, ?_, ?_, ?_, ?_, ?_, ?_⟩
  · rw [ht.decode, hdecode]
  · intro u other hu hsame callback argument
    rw [hu.decode, hsame, hdecode]
  · intro s u hs hbytes hsize
    rw [decode_ofString_append hs ht hbytes hsize, hdecode]
  · rw [hencode]
    constructor
    · intro hsame
      exact Utf8.isValidUTF8_iff.mpr ⟨mend pieces, hsame⟩
    · intro hwell
      obtain ⟨cs, hcs⟩ := Utf8.isValidUTF8_iff.mp hwell
      rw [← hdecode, ← hcs, Utf8.decodeLossy_encode]
  · intro hinvalid
    rw [String.toList_ofList]
    exact Utf8.mem_mend_of_broken (hvalid hinvalid)
  · rw [← Utf8.length_ofString, hencode]
    exact hpieces.length_encode_mend_le
  · intro u hbytes hsize
    exact decode_ofString hzero hbytes hsize callback argument

def scrambled : List UInt8 :=
  [0x68, 0xE2, 0x82, 0x68, 0xF0, 0x9F, 0x98, 0x80, 0xC3, 0x00, 0x61]

theorem decoding_restarts_at_characters_scrambled :
    let t : NativeText := ⟨some scrambled, 10⟩
    let u : NativeText := ⟨some (Utf8.ofString "né" ++ scrambled), 13⟩
    t.Readable scrambled ∧ t.decode "on_message_received" "text" = .ok "h\uFFFDh😀\uFFFD" ∧
      u.decode "on_message_received" "text" = .ok ("né" ++ "h\uFFFDh😀\uFFFD") ∧
      ¬(counted scrambled 10).toByteArray.IsValidUTF8 := by
  intro t u
  have ht : t.Readable scrambled := ⟨rfl, by decide, by decide⟩
  have htext : t.decode "on_message_received" "text" = .ok "h\uFFFDh😀\uFFFD" := by decide
  obtain ⟨text, pieces, hdecode, -, -, -, -, happend, hvalid, -⟩ :=
    decoding_restarts_at_characters ht "on_message_received" "text"
  rw [htext] at hdecode
  obtain rfl := Except.ok.inj hdecode
  exact ⟨ht, htext, happend "né" u (by decide) rfl (by decide), mt hvalid.mpr (by decide)⟩

/-! ### Texts that the size cuts off -/

theorem decode_cut {kept rest : List Char} {k : Int32} (hs : '\x00' ∉ s.toList)
    (htext : s.toList = kept ++ rest) (hlow : (encode kept).length ≤ k.toInt.toNat)
    (hnext : ∀ c more, rest = c :: more → k.toInt.toNat < (encode kept).length + c.utf8Size)
    (hnonneg : 0 ≤ k.toInt) (hle : k.toInt ≤ s.utf8ByteSize) (callback argument : String) :
    (NativeText.mk (some (Utf8.ofString s)) k).decode callback argument =
      .ok (String.ofList (kept ++ if k.toInt.toNat = (encode kept).length then [] else ['\uFFFD'])) := by
  rw [← Utf8.length_ofString] at hle
  have ht : (NativeText.mk (some (Utf8.ofString s)) k).Readable (Utf8.ofString s) := ⟨rfl, hnonneg, hle⟩
  have hzero : 0 ∉ (Utf8.ofString s).take k.toInt.toNat := fun hmem =>
    zero_not_mem_ofString hs (List.mem_of_mem_take hmem)
  have hencode : Utf8.ofString s = encode (kept ++ rest) := by rw [Utf8.ofString, htext]
  have hpieces := Utf8.pieces_take_encode hlow hnext (by rw [← hencode]; omega)
  rw [ht.decode, counted, untilZero_eq_self hzero, hencode, Utf8.decodeLossy_of_pieces hpieces,
    Utf8.mend_append, Utf8.mend_map_some]
  split <;> rfl

/-- A text without zero characters, of which the size counts some first bytes, is read up to the longest
beginning in whole characters that fits into them. A size between two characters leaves nothing behind it
and any other one a single replacement character, however far inside a character it is. -/
theorem cut_keeps_whole_characters {s : String} {k : Int32} (hs : '\x00' ∉ s.toList)
    (hnonneg : 0 ≤ k.toInt) (hle : k.toInt ≤ s.utf8ByteSize) (callback argument : String) :
    ∃ kept, Fits s.toList k.toInt.toNat kept ∧
      (IsBoundary s.toList k.toInt.toNat →
        (NativeText.mk (some (Utf8.ofString s)) k).decode callback argument = .ok (String.ofList kept)) ∧
      (¬IsBoundary s.toList k.toInt.toNat →
        (NativeText.mk (some (Utf8.ofString s)) k).decode callback argument =
          .ok (String.ofList (kept ++ ['\uFFFD']))) ∧
      ∀ before c after, s.toList = before ++ c :: after →
        (encode before).length < k.toInt.toNat → k.toInt.toNat < (encode before).length + c.utf8Size →
        (NativeText.mk (some (Utf8.ofString s)) k).decode callback argument =
          .ok (String.ofList (before ++ ['\uFFFD'])) := by
  obtain ⟨kept, rest, htext, hlow, hnext⟩ := Utf8.exists_next s.toList k.toInt.toNat
  have hfits : Fits s.toList k.toInt.toNat kept := by
    rw [htext]
    exact Utf8.fits_of_next hlow hnext
  have hdecode := decode_cut hs htext hlow hnext hnonneg hle callback argument
  refine ⟨kept, hfits, fun hboundary => ?_, fun hinside => ?_, fun before c after hsplit hinto hwithin => ?_⟩
  · rw [hdecode, if_pos (hfits.isBoundary_iff.mp hboundary), List.append_nil]
  · rw [hdecode, if_neg (mt hfits.isBoundary_iff.mpr hinside)]
  · have hfirst : ∀ d more, c :: after = d :: more →
        k.toInt.toNat < (encode before).length + d.utf8Size := by
      rintro d more ⟨⟩
      exact hwithin
    rw [decode_cut hs hsplit (Nat.le_of_lt hinto) hfirst hnonneg hle, if_neg (Nat.ne_of_gt hinto)]

theorem cut_keeps_whole_characters_emoji :
    '\x00' ∉ "a€😀".toList ∧ (0 ≤ (6 : Int32).toInt ∧ (6 : Int32).toInt ≤ "a€😀".utf8ByteSize) ∧
      (NativeText.mk (some (Utf8.ofString "a€😀")) 6).decode "on_message_received" "text" =
        .ok "a€\uFFFD" := by
  have hs : '\x00' ∉ "a€😀".toList := by decide
  have hsize : 0 ≤ (6 : Int32).toInt ∧ (6 : Int32).toInt ≤ "a€😀".utf8ByteSize := by decide
  obtain ⟨kept, -, -, -, hinside⟩ :=
    cut_keeps_whole_characters hs hsize.1 hsize.2 "on_message_received" "text"
  exact ⟨hs, hsize, hinside ['a', '€'] '😀' [] (by decide) (by decide) (by decide)⟩

end SessionBridge.NativeText
