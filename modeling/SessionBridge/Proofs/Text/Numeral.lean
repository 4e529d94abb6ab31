import Mathlib.Algebra.Group.Nat.Defs
import SessionBridge.Text.Decimal

/-! Decimal numerals of a fixed width. As texts they are in the order of their numbers, which is what the
zeros on the left are for, and different numbers have different ones. -/
namespace SessionBridge.Text

structure Numeral (width value : Nat) (cs : List Char) : Prop where
  length : cs.length = width
  digits : ∀ c ∈ cs, c.isDigit = true
  value : Nat.ofDigitChars 10 cs 0 = value

/-! ### Values of digits -/

variable {c d : Char} {cs ds rest rest' : List Char} {m n width : Nat}

def digitValue (c : Char) : Nat :=
  c.toNat - '0'.toNat

theorem isDigit_bounds (h : c.isDigit = true) : '0'.toNat ≤ c.toNat ∧ c.toNat ≤ '9'.toNat := by
  simpa [Char.isDigit, Char.le_def, UInt32.le_iff_toNat_le] using h

theorem ofDigitChars_cons_zero (c : Char) (cs : List Char) :
    Nat.ofDigitChars 10 (c :: cs) 0 = 10 ^ cs.length * digitValue c + Nat.ofDigitChars 10 cs 0 := by
  rw [Nat.ofDigitChars_cons, Nat.ofDigitChars_eq_ofDigitChars_zero, Nat.mul_zero, Nat.zero_add]
  rfl

theorem ofDigitChars_lt (h : ∀ c ∈ cs, c.isDigit = true) : Nat.ofDigitChars 10 cs 0 < 10 ^ cs.length := by
  induction cs with
  | nil => decide
  | cons c cs ih =>
    obtain ⟨hc, hcs⟩ := List.forall_mem_cons.mp h
    have hvalue : digitValue c ≤ 9 := by
      have := (isDigit_bounds hc).2
      unfold digitValue
      simp only [Char.reduceToNat] at *
      omega
    have hproduct := Nat.mul_le_mul_left (10 ^ cs.length) hvalue
    have hrest := ih hcs
    rw [ofDigitChars_cons_zero, List.length_cons, Nat.pow_succ]
    omega

theorem lt_of_digitValue_lt (hc : c.isDigit = true) (h : digitValue c < digitValue d) : c < d := by
  have := (isDigit_bounds hc).1
  unfold digitValue at h
  rw [Char.lt_def, UInt32.lt_iff_toNat_lt]
  change c.toNat < d.toNat
  omega

theorem eq_of_digitValue_eq (hc : c.isDigit = true) (hd : d.isDigit = true)
    (h : digitValue c = digitValue d) : c = d := by
  have := (isDigit_bounds hc).1
  have := (isDigit_bounds hd).1
  unfold digitValue at h
  exact Char.toNat_inj.mp (by omega)

/-- Among digits of one length, the first one that differs decides on the value. -/
theorem value_lt_or_eq (hlength : cs.length = ds.length) (hcs : ∀ c ∈ cs, c.isDigit = true)
    (hds : ∀ d ∈ ds, d.isDigit = true) :
    (Nat.ofDigitChars 10 cs 0 < Nat.ofDigitChars 10 ds 0 → cs < ds) ∧
      (Nat.ofDigitChars 10 cs 0 = Nat.ofDigitChars 10 ds 0 → cs = ds) := by
  induction cs generalizing ds with
  | nil =>
    obtain rfl := List.eq_nil_of_length_eq_zero hlength.symm
    exact ⟨fun h => absurd h (Nat.lt_irrefl _), fun _ => rfl⟩
  | cons c cs ih =>
    cases ds with
    | nil => cases hlength
    | cons d ds =>
      have hlength : cs.length = ds.length := Nat.succ.inj hlength
      obtain ⟨hc, hcs⟩ := List.forall_mem_cons.mp hcs
      obtain ⟨hd, hds⟩ := List.forall_mem_cons.mp hds
      have hbound := ofDigitChars_lt hcs
      have hbound' := ofDigitChars_lt hds
      rw [ofDigitChars_cons_zero, ofDigitChars_cons_zero, hlength]
      rw [hlength] at hbound
      have hstep {x y : Nat} (h : x < y) : 10 ^ ds.length * x + 10 ^ ds.length ≤ 10 ^ ds.length * y :=
        Nat.mul_le_mul_left (10 ^ ds.length) h
      rcases Nat.lt_trichotomy (digitValue c) (digitValue d) with hlt | heq | hgt
      · have := hstep hlt
        exact ⟨fun _ => .rel (lt_of_digitValue_lt hc hlt), by omega⟩
      · obtain ⟨hless, hsame⟩ := ih hlength hcs hds
        rw [heq, eq_of_digitValue_eq hc hd heq]
        exact ⟨fun h => .cons (hless (Nat.lt_of_add_lt_add_left h)),
          fun h => congrArg _ (hsame (Nat.add_left_cancel h))⟩
      · have := hstep hgt
        exact ⟨by omega, by omega⟩

/-! ### Numerals -/

theorem value_paddedDigits (width n : Nat) : Nat.ofDigitChars 10 (paddedDigits width n) 0 = n := by
  unfold paddedDigits digits
  rw [Nat.ofDigitChars_append, Nat.ofDigitChars_replicate_zero, Nat.mul_zero,
    Nat.ofDigitChars_ten_toDigits]

theorem isDigit_of_mem_paddedDigits (h : c ∈ paddedDigits width n) : c.isDigit = true := by
  rcases List.mem_append.mp h with h | h
  · rw [(List.mem_replicate.mp h).2]
    rfl
  · exact isDigit_of_mem_digits h

theorem length_paddedDigits (hwidth : 0 < width) (h : n < 10 ^ width) :
    (paddedDigits width n).length = width := by
  have hdigits : (digits n).length ≤ width := (Nat.length_toDigits_le_iff (by decide) hwidth).mpr h
  unfold paddedDigits
  rw [List.length_append, List.length_replicate]
  exact Nat.sub_add_cancel hdigits

theorem numeral_paddedDigits (hwidth : 0 < width) (h : n < 10 ^ width) :
    Numeral width n (paddedDigits width n) :=
  ⟨length_paddedDigits hwidth h, fun _ => isDigit_of_mem_paddedDigits, value_paddedDigits width n⟩

theorem Numeral.unique (hcs : Numeral width n cs) (hds : Numeral width n ds) : cs = ds :=
  (value_lt_or_eq (hcs.length.trans hds.length.symm) hcs.digits hds.digits).2
    (hcs.value.trans hds.value.symm)

theorem Numeral.lt (hcs : Numeral width m cs) (hds : Numeral width n ds) (h : m < n) : cs < ds := by
  rw [← hcs.value, ← hds.value] at h
  exact (value_lt_or_eq (hcs.length.trans hds.length.symm) hcs.digits hds.digits).1 h

theorem Numeral.append_inj (hcs : Numeral width m cs) (hds : Numeral width n ds)
    (h : cs ++ rest = ds ++ rest') : m = n ∧ rest = rest' := by
  obtain ⟨rfl, hrest⟩ := List.append_inj h (hcs.length.trans hds.length.symm)
  exact ⟨hcs.value.symm.trans hds.value, hrest⟩

/-! ### Texts in order -/

theorem lt_append_of_lt (hlength : cs.length = ds.length) (h : cs < ds) (rest rest' : List Char) :
    cs ++ rest < ds ++ rest' := by
  induction h with
  | nil => cases hlength
  | rel h => exact .rel h
  | cons _ ih => exact .cons (ih (Nat.succ.inj hlength))

theorem Numeral.lt_append (hcs : Numeral width m cs) (hds : Numeral width n ds)
    (h : m < n ∨ m = n ∧ rest < rest') : cs ++ rest < ds ++ rest' := by
  rcases h with h | ⟨rfl, h⟩
  · exact lt_append_of_lt (hcs.length.trans hds.length.symm) (hcs.lt hds h) rest rest'
  · rw [hcs.unique hds]
    exact List.append_left_lt h

end SessionBridge.Text
