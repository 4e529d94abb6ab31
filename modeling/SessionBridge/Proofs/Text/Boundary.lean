import SessionBridge.Proofs.Text.Pieces

/-! Byte offsets in a text. An offset lies between two characters or inside of one, and the longest beginning
that fits into so many bytes ends at the offset or at the character that it is inside of. What is read of a
text that is cut off there is that beginning, with one broken piece behind it if the cut is inside. -/
namespace SessionBridge.Utf8

/-- An offset that some whole characters at the start of a text come up to. -/
def IsBoundary (cs : List Char) (offset : Nat) : Prop :=
  ∃ kept, kept <+: cs ∧ (encode kept).length = offset

/-- The longest beginning of a text whose encoding takes no more bytes than these. -/
structure Fits (cs : List Char) (size : Nat) (kept : List Char) : Prop where
  beginning : kept <+: cs
  fits : (encode kept).length ≤ size
  longest : ∀ longer, longer <+: cs → (encode longer).length ≤ size → longer <+: kept

variable {cs kept rest : List Char} {size : Nat}

theorem length_encode_append (cs ds : List Char) :
    (encode (cs ++ ds)).length = (encode cs).length + (encode ds).length := by
  rw [encode_append, List.length_append]

theorem length_encode_cons (c : Char) (cs : List Char) :
    (encode (c :: cs)).length = c.utf8Size + (encode cs).length := by
  rw [encode_cons, List.length_append, String.length_utf8EncodeChar]

theorem fits_of_next (hfits : (encode kept).length ≤ size)
    (hnext : ∀ c more, rest = c :: more → size < (encode kept).length + c.utf8Size) :
    Fits (kept ++ rest) size kept := by
  refine ⟨List.prefix_append _ _, hfits, fun longer hlonger hsize => ?_⟩
  rcases List.prefix_or_prefix_of_prefix hlonger (List.prefix_append kept rest) with hpre | ⟨more, rfl⟩
  · exact hpre
  · cases more with
    | nil => exact ⟨[], by rw [List.append_nil, List.append_nil]⟩
    | cons c more =>
      obtain ⟨after, hafter⟩ := (List.prefix_append_right_inj kept).mp hlonger
      have hlong := hnext c (more ++ after) hafter.symm
      rw [length_encode_append, length_encode_cons] at hsize
      omega

theorem exists_next (cs : List Char) (size : Nat) :
    ∃ kept rest, cs = kept ++ rest ∧ (encode kept).length ≤ size ∧
      ∀ c more, rest = c :: more → size < (encode kept).length + c.utf8Size := by
  induction cs generalizing size with
  | nil => exact ⟨[], [], rfl, Nat.zero_le _, nofun⟩
  | cons c cs ih =>
    by_cases hc : c.utf8Size ≤ size
    · obtain ⟨kept, rest, rfl, hfits, hnext⟩ := ih (size - c.utf8Size)
      refine ⟨c :: kept, rest, rfl, ?_, fun d more hrest => ?_⟩
      · rw [length_encode_cons]
        omega
      · have := hnext d more hrest
        rw [length_encode_cons]
        omega
    · refine ⟨[], c :: cs, rfl, Nat.zero_le _, ?_⟩
      rintro d more ⟨⟩
      rw [encode_nil, List.length_nil]
      omega

theorem Fits.isBoundary_iff (h : Fits cs size kept) :
    IsBoundary cs size ↔ size = (encode kept).length := by
  constructor
  · rintro ⟨other, hother, hsize⟩
    obtain ⟨more, rfl⟩ := h.longest other hother (Nat.le_of_eq hsize)
    have hfits := h.fits
    rw [length_encode_append] at hfits ⊢
    omega
  · intro hsize
    exact ⟨kept, h.beginning, hsize.symm⟩

theorem pieces_take_encode (hlow : (encode kept).length ≤ size)
    (hnext : ∀ c more, rest = c :: more → size < (encode kept).length + c.utf8Size)
    (hsize : size ≤ (encode (kept ++ rest)).length) :
    Pieces ((encode (kept ++ rest)).take size)
      (kept.map some ++ if size = (encode kept).length then [] else [none]) := by
  obtain ⟨inside, rfl⟩ := Nat.exists_eq_add_of_le hlow
  rw [encode_append, List.take_length_add_append]
  refine pieces_encode_append kept ?_
  rcases inside with _ | inside
  · rw [if_pos (Nat.add_zero _)]
    exact .nil
  rw [if_neg (by omega)]
  rcases rest with _ | ⟨c, more⟩
  · rw [List.append_nil] at hsize
    omega
  have hc := hnext c more rfl
  have hlength := String.length_utf8EncodeChar c
  rw [encode_cons, List.take_append_of_le_length (by omega)]
  refine pieces_cut ?_ ?_ (List.take_append_drop (inside + 1) (String.utf8EncodeChar c)).symm
  · rw [← List.length_pos_iff, List.length_take]
    omega
  · rw [← List.length_pos_iff, List.length_drop]
    omega

/-! ### Slices -/

/-- A text cut in two at an offset, unless the offset is inside a character or behind the end. -/
def splitAt? (cs : List Char) (offset : Nat) : Option (List Char × List Char) :=
  if offset = 0 then some ([], cs)
  else match cs with
    | [] => none
    | c :: cs =>
      if c.utf8Size ≤ offset then
        (splitAt? cs (offset - c.utf8Size)).map fun (before, after) => (c :: before, after)
      else none

theorem splitAt?_append (before after : List Char) :
    splitAt? (before ++ after) (encode before).length = some (before, after) := by
  induction before with
  | nil =>
    unfold splitAt?
    exact if_pos rfl
  | cons c before ih =>
    have hpos := c.utf8Size_pos
    unfold splitAt?
    rw [length_encode_cons, if_neg (by omega), List.cons_append]
    dsimp only
    rw [if_pos (Nat.le_add_right _ _), Nat.add_sub_cancel_left, ih]
    rfl

theorem splitAt?_eq_some_iff {before after : List Char} :
    splitAt? cs size = some (before, after) ↔ cs = before ++ after ∧ (encode before).length = size := by
  constructor
  · intro h
    induction cs generalizing size before after with
    | nil =>
      unfold splitAt? at h
      split at h
      · rename_i hzero
        cases h
        exact ⟨rfl, hzero.symm⟩
      · cases h
    | cons c cs ih =>
      unfold splitAt? at h
      split at h
      · rename_i hzero
        cases h
        exact ⟨rfl, hzero.symm⟩
      · dsimp only at h
        split at h
        · obtain ⟨⟨head, tail⟩, hrest, heq⟩ := Option.map_eq_some_iff.mp h
          obtain ⟨rfl, hlength⟩ := ih hrest
          cases heq
          refine ⟨rfl, ?_⟩
          rw [length_encode_cons, hlength]
          omega
        · cases h
  · rintro ⟨rfl, rfl⟩
    exact splitAt?_append before after

example : splitAt? ['a', '€', 'b'] 2 = none := by decide

end SessionBridge.Utf8
