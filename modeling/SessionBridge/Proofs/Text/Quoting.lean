import SessionBridge.Text.Decimal
import SessionBridge.Text.Hexadecimal
import SessionBridge.Text.Quoted
import SessionBridge.Text.Reader

/-! Texts that tell where they end. Quoted text is read back character by character: what stands in it for
a character is never the start of what stands there for another one, and none of it starts with a quotation
mark. So a quoted text ends at one place only, whatever comes behind it, and two quoted texts in a row cannot
share out their characters in two ways. -/
namespace SessionBridge.Text

/-! ### Numbers in hexadecimal -/

theorem hexDigitValue?_digitChar {d : Nat} (h : d < 16) : hexDigitValue? d.digitChar = some d := by
  revert d
  decide

theorem hexValue?_append_digit (cs : List Char) (c : Char) :
    hexValue? (cs ++ [c]) = (hexValue? cs).bind fun n => (hexDigitValue? c).map (n * 16 + ·) := by
  simp [hexValue?, List.foldlM_append]

theorem hexValue?_toDigits (n : Nat) : hexValue? (Nat.toDigits 16 n) = some n := by
  induction n using Nat.strongRecOn with
  | ind n ih =>
    rw [Nat.toDigits_eq_if (by decide)]
    split
    next hsmall => simp [hexValue?, hexDigitValue?_digitChar hsmall]
    next hlarge =>
      rw [hexValue?_append_digit, ih (n / 16) (by omega), Option.bind_some,
        hexDigitValue?_digitChar (Nat.mod_lt n (by decide)), Option.map_some]
      congr 1
      omega

theorem isSome_hexDigitValue?_of_mem {n : Nat} {c : Char} (h : c ∈ Nat.toDigits 16 n) :
    (hexDigitValue? c).isSome = true := by
  induction n using Nat.strongRecOn with
  | ind n ih =>
    rw [Nat.toDigits_eq_if (by decide)] at h
    split at h
    next hsmall =>
      rw [List.mem_singleton.mp h, hexDigitValue?_digitChar hsmall]
      rfl
    next hlarge =>
      rcases List.mem_append.mp h with h | h
      · exact ih (n / 16) (by omega) h
      · rw [List.mem_singleton.mp h, hexDigitValue?_digitChar (Nat.mod_lt n (by decide))]
        rfl

/-! ### Escaped characters -/

def readEscape : Reader Char
  | '\\' :: rest => some ('\\', rest)
  | '"' :: rest => some ('"', rest)
  | 'n' :: rest => some ('\n', rest)
  | 'r' :: rest => some ('\r', rest)
  | 't' :: rest => some ('\t', rest)
  | '0' :: rest => some ('\x00', rest)
  | 'u' :: '\x7b' :: rest =>
    (hexValue? (rest.takeWhile (· ≠ '\x7d'))).map fun n =>
      (Char.ofNat n, (rest.dropWhile (· ≠ '\x7d')).tail)
  | _ => none

/-- Reads one character of a quoted text; the quotation mark at its end is none of them. -/
def readQuotedChar : Reader Char
  | '\\' :: rest => readEscape rest
  | '"' :: _ => none
  | c :: rest => some (c, rest)
  | [] => none

theorem readEscape_number (c : Char) (rest : List Char) :
    readEscape ('u' :: '\x7b' :: (Nat.toDigits 16 c.toNat ++ '\x7d' :: rest)) = some (c, rest) := by
  have hdigits : ∀ d ∈ Nat.toDigits 16 c.toNat, decide (d ≠ '\x7d') = true := by
    intro d hmem
    refine decide_eq_true ?_
    rintro rfl
    exact absurd (isSome_hexDigitValue?_of_mem hmem) (by decide)
  rw [readEscape, List.takeWhile_append_of_pos hdigits, List.dropWhile_append_of_pos hdigits]
  simp [hexValue?_toDigits, Char.ofNat_toNat]

theorem readQuotedChar_escapeChar (c : Char) (rest : List Char) :
    readQuotedChar (escapeChar c ++ rest) = some (c, rest) := by
  unfold escapeChar
  split
  next h => rw [h]; rfl
  split
  next h => rw [h]; rfl
  split
  next h => rw [h]; rfl
  split
  next h => rw [h]; rfl
  split
  next h => rw [h]; rfl
  split
  next h => rw [h]; rfl
  split
  next =>
    simp only [escapeByNumber, List.cons_append, List.nil_append, List.append_assoc]
    exact readEscape_number c rest
  next hbackslash hquote _ _ _ _ _ =>
    rw [List.singleton_append, readQuotedChar]
    · exact hbackslash
    · exact hquote

theorem escapeChar_append_inj {c d : Char} {rest rest' : List Char}
    (h : escapeChar c ++ rest = escapeChar d ++ rest') : c = d ∧ rest = rest' := by
  have hread := readQuotedChar_escapeChar c rest
  rw [h, readQuotedChar_escapeChar d rest'] at hread
  cases hread
  exact ⟨rfl, rfl⟩

theorem escapeChar_append_ne_mark (c : Char) (rest rest' : List Char) :
    escapeChar c ++ rest ≠ '"' :: rest' := by
  intro h
  have hread := readQuotedChar_escapeChar c rest
  rw [h] at hread
  cases hread

/-! ### Quoted texts -/

theorem escape_cons (c : Char) (cs : List Char) : escape (c :: cs) = escapeChar c ++ escape cs :=
  rfl

theorem escape_append_mark_inj {cs ds rest rest' : List Char}
    (h : escape cs ++ '"' :: rest = escape ds ++ '"' :: rest') : cs = ds ∧ rest = rest' := by
  induction cs generalizing ds with
  | nil =>
    cases ds with
    | nil => exact ⟨rfl, List.tail_eq_of_cons_eq h⟩
    | cons d ds =>
      rw [escape_cons, List.append_assoc] at h
      exact absurd h.symm (escapeChar_append_ne_mark d _ _)
  | cons c cs ih =>
    rw [escape_cons, List.append_assoc] at h
    cases ds with
    | nil => exact absurd h (escapeChar_append_ne_mark c _ _)
    | cons d ds =>
      rw [escape_cons, List.append_assoc] at h
      obtain ⟨rfl, hbehind⟩ := escapeChar_append_inj h
      obtain ⟨rfl, hrest⟩ := ih hbehind
      exact ⟨rfl, hrest⟩

theorem toList_quote (s : String) : (quote s).toList = '"' :: (escape s.toList ++ ['"']) := by
  rw [quote, String.toList_ofList]
  rfl

theorem quote_append_inj {s t : String} {rest rest' : List Char}
    (h : (quote s).toList ++ rest = (quote t).toList ++ rest') : s = t ∧ rest = rest' := by
  rw [toList_quote, toList_quote] at h
  simp only [List.cons_append, List.append_assoc, List.nil_append, List.cons.injEq, true_and] at h
  obtain ⟨hsame, hrest⟩ := escape_append_mark_inj h
  exact ⟨String.toList_inj.mp hsame, hrest⟩

/-! ### Numbers in decimal -/

theorem digits_append_inj {m n : Nat} {c : Char} {rest rest' : List Char} (hc : c.isDigit = false)
    (h : digits m ++ c :: rest = digits n ++ c :: rest') : m = n ∧ rest = rest' := by
  have htake (n : Nat) (rest : List Char) : (digits n ++ c :: rest).takeWhile Char.isDigit = digits n := by
    rw [List.takeWhile_append_of_pos fun _ => isDigit_of_mem_digits, List.takeWhile_cons_of_neg (by simp [hc]),
      List.append_nil]
  have hdigits : digits m = digits n := by rw [← htake m rest, h, htake]
  rw [hdigits] at h
  refine ⟨?_, List.tail_eq_of_cons_eq (List.append_cancel_left h)⟩
  rw [← Nat.ofDigitChars_ten_toDigits (n := m), show Nat.toDigits 10 m = Nat.toDigits 10 n from hdigits,
    Nat.ofDigitChars_ten_toDigits]

end SessionBridge.Text
