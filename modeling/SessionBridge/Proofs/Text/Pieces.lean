import SessionBridge.Proofs.Text.Encoding

/-! The pieces of a byte string, without a reader. Where an encoding starts, its character is a piece;
where none does, as much as could still have begun one is a broken piece, and a single byte if nothing
could. Bytes fall into pieces in one way only, and behind a character they do as if they began there. -/
namespace SessionBridge.Utf8

open String (utf8EncodeChar)

/-- Bytes that an encoding starts with. -/
def Begins (bytes : List UInt8) : Prop :=
  ∃ c, bytes <+: utf8EncodeChar c

/-- Some bytes with no encoding at their start, and as many of them as could have begun one, or one byte. -/
structure Breaks (broken rest : List UInt8) : Prop where
  nonempty : broken ≠ []
  unread : ∀ c, ¬utf8EncodeChar c <+: broken ++ rest
  begins : Begins broken ∨ broken.length = 1
  longest : ∀ more, more ≠ [] → more <+: rest → ¬Begins (broken ++ more)

inductive Pieces : List UInt8 → List Piece → Prop where
  | nil : Pieces [] []
  | char {c : Char} {rest : List UInt8} {pieces : List Piece} (h : Pieces rest pieces) :
      Pieces (utf8EncodeChar c ++ rest) (some c :: pieces)
  | broken {broken rest : List UInt8} {pieces : List Piece} (hbreaks : Breaks broken rest)
      (h : Pieces rest pieces) : Pieces (broken ++ rest) (none :: pieces)

def mend (pieces : List Piece) : List Char :=
  pieces.map (·.getD '\uFFFD')

variable {bytes rest broken broken' rest' : List UInt8} {pieces pieces' : List Piece}

theorem Begins.of_prefix (h : Begins bytes) (hpre : rest <+: bytes) : Begins rest := by
  obtain ⟨c, hc⟩ := h
  exact ⟨c, hpre.trans hc⟩

theorem breaks_single {b : UInt8} (h : ¬Begins [b]) : Breaks [b] rest := by
  refine ⟨List.cons_ne_nil _ _, fun c hc => ?_, .inr rfl, fun more _ _ hbegins => ?_⟩
  · obtain ⟨b', tail, hbytes⟩ := List.exists_cons_of_ne_nil (encodeChar_ne_nil c)
    rw [hbytes] at hc
    obtain ⟨rfl, -⟩ := List.cons_prefix_cons.mp hc
    exact h ⟨c, tail, hbytes.symm⟩
  · exact h (hbegins.of_prefix (List.prefix_append _ _))

/-! ### One way to read -/

theorem Breaks.length_le (h : Breaks broken rest) (h' : Breaks broken' rest')
    (heq : broken ++ rest = broken' ++ rest') : broken'.length ≤ broken.length := by
  refine Nat.le_of_not_lt fun hlonger => ?_
  obtain ⟨more, rfl, hrest⟩ | ⟨more, rfl, -⟩ := List.append_eq_append_iff.mp heq
  · have hmore : more ≠ [] := by
      rintro rfl
      simp at hlonger
    have hfirst : 0 < broken.length := List.length_pos_iff.mpr h.nonempty
    -- The longer piece begins a character or is a single byte, and the shorter one rules out both.
    rcases h'.begins with hbegins | hsingle
    · exact h.longest more hmore ⟨rest', hrest.symm⟩ hbegins
    · rw [List.length_append] at hsingle hlonger
      omega
  · rw [List.length_append] at hlonger
    omega

theorem Breaks.unique (h : Breaks broken rest) (h' : Breaks broken' rest')
    (heq : broken ++ rest = broken' ++ rest') : broken = broken' ∧ rest = rest' :=
  List.append_inj heq (Nat.le_antisymm (h'.length_le h heq.symm) (h.length_le h' heq))

theorem Pieces.unique (h : Pieces bytes pieces) (h' : Pieces bytes pieces') : pieces = pieces' := by
  induction h generalizing pieces' with
  | nil =>
    generalize hbytes : ([] : List UInt8) = bytes at h'
    cases h' with
    | nil => rfl
    | @char c => exact absurd (List.append_eq_nil_iff.mp hbytes.symm).1 (encodeChar_ne_nil c)
    | broken hbreaks => exact absurd (List.append_eq_nil_iff.mp hbytes.symm).1 hbreaks.nonempty
  | @char c rest pieces _ ih =>
    generalize hbytes : utf8EncodeChar c ++ rest = bytes at h'
    cases h' with
    | nil => exact absurd (List.append_eq_nil_iff.mp hbytes).1 (encodeChar_ne_nil c)
    | char hrest =>
      obtain ⟨rfl, rfl⟩ := encodeChar_append_inj hbytes
      rw [ih hrest]
    | broken hbreaks => exact absurd ⟨rest, hbytes⟩ (hbreaks.unread c)
  | @broken broken rest pieces hbreaks _ ih =>
    generalize hbytes : broken ++ rest = bytes at h'
    cases h' with
    | nil => exact absurd (List.append_eq_nil_iff.mp hbytes).1 hbreaks.nonempty
    | @char c rest' => exact absurd ⟨rest', hbytes.symm⟩ (hbreaks.unread c)
    | broken hbreaks' hrest =>
      obtain ⟨rfl, rfl⟩ := hbreaks.unique hbreaks' hbytes
      rw [ih hrest]

/-! ### Texts and what follows them -/

theorem pieces_encode_append (cs : List Char) (h : Pieces rest pieces) :
    Pieces (encode cs ++ rest) (cs.map some ++ pieces) := by
  induction cs with
  | nil => exact h
  | cons c cs ih =>
    have hnext := Pieces.char (c := c) ih
    rw [← List.append_assoc] at hnext
    exact hnext

theorem pieces_encode (cs : List Char) : Pieces (encode cs) (cs.map some) := by
  have h := pieces_encode_append cs .nil
  rwa [List.append_nil, List.append_nil] at h

theorem pieces_cut {c : Char} {more : List UInt8} (hbytes : bytes ≠ []) (hmore : more ≠ [])
    (hcut : utf8EncodeChar c = bytes ++ more) : Pieces bytes [none] := by
  have hbreaks : Breaks bytes [] := by
    refine ⟨hbytes, ?_, .inl ⟨c, more, hcut.symm⟩, fun late hlate hnil => ?_⟩
    · rintro d ⟨late, hd⟩
      have hboth : utf8EncodeChar d ++ (late ++ more) = utf8EncodeChar c ++ [] := by
        rw [← List.append_assoc, hd, hcut, List.append_nil, List.append_nil]
      exact hmore (List.append_eq_nil_iff.mp (encodeChar_append_inj hboth).2).2
    · exact absurd (List.prefix_nil.mp hnil) hlate
  have h := Pieces.broken hbreaks .nil
  rwa [List.append_nil] at h

/-! ### What a mended text tells about the bytes -/

@[simp] theorem mend_map_some (cs : List Char) : mend (cs.map some) = cs := by
  simp [mend, Function.comp_def]

@[simp] theorem mend_append (pieces pieces' : List Piece) :
    mend (pieces ++ pieces') = mend pieces ++ mend pieces' :=
  List.map_append

theorem mem_mend_of_broken (h : none ∈ pieces) : '\uFFFD' ∈ mend pieces :=
  List.mem_map.mpr ⟨none, h, rfl⟩

theorem Pieces.encode_mend (h : Pieces bytes pieces) (hwhole : none ∉ pieces) :
    encode (mend pieces) = bytes := by
  induction h with
  | nil => rfl
  | @char c rest pieces _ ih =>
    have hrest : none ∉ pieces := fun hmem => hwhole (List.mem_cons_of_mem _ hmem)
    change utf8EncodeChar c ++ encode (mend pieces) = _
    rw [ih hrest]
  | broken => exact absurd List.mem_cons_self hwhole

theorem Pieces.length_encode_mend_le (h : Pieces bytes pieces) :
    (encode (mend pieces)).length ≤ 3 * bytes.length := by
  induction h with
  | nil => exact Nat.le_refl 0
  | @char c rest pieces _ ih =>
    change (utf8EncodeChar c ++ encode (mend pieces)).length ≤ _
    rw [List.length_append, List.length_append]
    omega
  | @broken broken rest pieces hbreaks _ ih =>
    have hfirst : 0 < broken.length := List.length_pos_iff.mpr hbreaks.nonempty
    have hthree : (utf8EncodeChar '\uFFFD').length = 3 := by decide
    change (utf8EncodeChar '\uFFFD' ++ encode (mend pieces)).length ≤ _
    rw [List.length_append, List.length_append]
    omega

theorem Pieces.zero_not_mem_mend (h : Pieces bytes pieces) (hbytes : 0 ∉ bytes) :
    '\x00' ∉ mend pieces := by
  induction h with
  | nil => exact List.not_mem_nil
  | @char c rest pieces _ ih =>
    obtain ⟨hc, hrest⟩ := not_or.mp (mt List.mem_append.mpr hbytes)
    intro hmem
    rcases List.mem_cons.mp hmem with hzero | hmem
    · exact hc (zero_mem_encodeChar_iff.mpr hzero.symm)
    · exact ih hrest hmem
  | @broken broken rest pieces _ _ ih =>
    obtain ⟨-, hrest⟩ := not_or.mp (mt List.mem_append.mpr hbytes)
    intro hmem
    rcases List.mem_cons.mp hmem with hzero | hmem
    · exact absurd hzero (by decide)
    · exact ih hrest hmem

end SessionBridge.Utf8
