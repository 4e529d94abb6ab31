import SessionBridge.Proofs.Text.Pieces

/-! The scanner finds the pieces. What it keeps of an open sequence tells which bytes carry it on, and those
are just the bytes with which some encoding goes on; so a sequence that breaks was as long as it could
be, and one that comes to its end is an encoding. -/
namespace SessionBridge.Utf8

open String (utf8EncodeChar)

def Pending.Takes (p : Pending) (b : UInt8) : Prop :=
  p.lower ≤ b ∧ b ≤ p.upper

inductive Opens : List UInt8 → Pending → Prop where
  | ofTwo {a : UInt8} (ha : Within 0xC2 0xDF a) : Opens [a] ⟨1, a.toNat % 0x20, 0x80, 0xBF⟩
  | ofThree {a : UInt8} (ha : Within 0xE0 0xEF a) :
      Opens [a]
        ⟨2, a.toNat % 0x10, if a = 0xE0 then 0xA0 else 0x80, if a = 0xED then 0x9F else 0xBF⟩
  | ofThreeTwo {a b : UInt8} (ha : Within 0xE0 0xEF a) (hb : Second a b) :
      Opens [a, b] ⟨1, a.toNat % 0x10 * 0x40 + b.toNat % 0x40, 0x80, 0xBF⟩
  | ofFour {a : UInt8} (ha : Within 0xF0 0xF4 a) :
      Opens [a]
        ⟨3, a.toNat % 0x08, if a = 0xF0 then 0x90 else 0x80, if a = 0xF4 then 0x8F else 0xBF⟩
  | ofFourTwo {a b : UInt8} (ha : Within 0xF0 0xF4 a) (hb : Second a b) :
      Opens [a, b] ⟨2, a.toNat % 0x08 * 0x40 + b.toNat % 0x40, 0x80, 0xBF⟩
  | ofFourThree {a b c : UInt8} (ha : Within 0xF0 0xF4 a) (hb : Second a b)
      (hc : Within 0x80 0xBF c) :
      Opens [a, b, c]
        ⟨1, (a.toNat % 0x08 * 0x40 + b.toNat % 0x40) * 0x40 + c.toNat % 0x40, 0x80, 0xBF⟩

variable {seen rest : List UInt8} {p : Pending} {a b : UInt8} {missing bits n : Nat}

/-! ### Bounds -/

theorem takes_iff {lower upper : UInt8} :
    Pending.Takes ⟨missing, bits, lower, upper⟩ b ↔ Within lower.toNat upper.toNat b := by
  rw [Pending.Takes, UInt8.le_iff_toNat_le, UInt8.le_iff_toNat_le]
  rfl

theorem takes_iff_tail {low lower high upper : UInt8} (hlower : 0x80 ≤ lower.toNat)
    (hupper : upper.toNat ≤ 0xBF) :
    Pending.Takes ⟨missing, bits, if a = low then lower else 0x80, if a = high then upper else 0xBF⟩ b ↔
      Within 0x80 0xBF b ∧ (a.toNat = low.toNat → lower.toNat ≤ b.toNat) ∧
        (a.toNat = high.toNat → b.toNat ≤ upper.toNat) := by
  rw [takes_iff, apply_ite UInt8.toNat, apply_ite UInt8.toNat]
  simp only [← UInt8.toNat_inj, UInt8.reduceToNat]
  unfold Within
  split <;> split <;> omega

theorem takes_iff_second_of_three (ha : Within 0xE0 0xEF a) :
    Pending.Takes
        ⟨missing, bits, if a = 0xE0 then 0xA0 else 0x80, if a = 0xED then 0x9F else 0xBF⟩ b ↔
      Second a b := by
  rw [takes_iff_tail (by decide) (by decide)]
  unfold Within at ha
  constructor
  · rintro ⟨htail, hlower, hupper⟩
    exact ⟨htail, hlower, hupper, by omega, by omega⟩
  · intro h
    exact ⟨h.tail, h.overlongThree, h.surrogate⟩

theorem takes_iff_second_of_four (ha : Within 0xF0 0xF4 a) :
    Pending.Takes
        ⟨missing, bits, if a = 0xF0 then 0x90 else 0x80, if a = 0xF4 then 0x8F else 0xBF⟩ b ↔
      Second a b := by
  rw [takes_iff_tail (by decide) (by decide)]
  unfold Within at ha
  constructor
  · rintro ⟨htail, hlower, hupper⟩
    exact ⟨htail, by omega, by omega, hlower, hupper⟩
  · intro h
    exact ⟨h.tail, h.overlongFour, h.tooLarge⟩

/-! ### Open sequences -/

theorem Opens.extend (h : Opens seen p) (hb : p.Takes b) :
    if p.missing ≤ 1 then Sequence (seen ++ [b]) (p.bits * 0x40 + b.toNat % 0x40)
    else Opens (seen ++ [b]) ⟨p.missing - 1, p.bits * 0x40 + b.toNat % 0x40, 0x80, 0xBF⟩ := by
  cases h with
  | ofTwo ha => exact .two ha (takes_iff.mp hb)
  | ofThree ha => exact .ofThreeTwo ha ((takes_iff_second_of_three ha).mp hb)
  | ofThreeTwo ha hsecond => exact .three ha hsecond (takes_iff.mp hb)
  | ofFour ha => exact .ofFourTwo ha ((takes_iff_second_of_four ha).mp hb)
  | ofFourTwo ha hsecond => exact .ofFourThree ha hsecond (takes_iff.mp hb)
  | ofFourThree ha hsecond hc => exact .four ha hsecond hc (takes_iff.mp hb)

theorem Within.disjoint {lower upper lower' upper' : Nat} (h : Within lower upper a)
    (h' : Within lower' upper' a) : ¬upper < lower' := by
  unfold Within at h h'
  omega

theorem Opens.takes (h : Opens seen p) (hseq : Sequence (seen ++ b :: rest) n) : p.Takes b := by
  cases h with
  | ofTwo ha =>
    cases hseq with
    | two _ hb => exact takes_iff.mpr hb
    | three ha' => exact absurd (by decide) (ha.disjoint ha')
    | four ha' => exact absurd (by decide) (ha.disjoint ha')
  | ofThree ha =>
    cases hseq with
    | two ha' => exact absurd (by decide) (ha'.disjoint ha)
    | three _ hb => exact (takes_iff_second_of_three ha).mpr hb
    | four ha' => exact absurd (by decide) (ha.disjoint ha')
  | ofThreeTwo ha =>
    cases hseq with
    | three _ _ hc => exact takes_iff.mpr hc
    | four ha' => exact absurd (by decide) (ha.disjoint ha')
  | ofFour ha =>
    cases hseq with
    | two ha' => exact absurd (by decide) (ha'.disjoint ha)
    | three ha' => exact absurd (by decide) (ha'.disjoint ha)
    | four _ hb => exact (takes_iff_second_of_four ha).mpr hb
  | ofFourTwo ha =>
    cases hseq with
    | three ha' => exact absurd (by decide) (ha'.disjoint ha)
    | four _ _ hc => exact takes_iff.mpr hc
  | ofFourThree =>
    cases hseq with
    | four _ _ _ hd => exact takes_iff.mpr hd

theorem Opens.takes_of_begins (h : Opens seen p) (hbegins : Begins (seen ++ [b])) : p.Takes b := by
  obtain ⟨c, rest, hc⟩ := hbegins
  have hseq := sequence_encodeChar c
  rw [← hc, List.append_assoc] at hseq
  exact h.takes hseq

theorem Opens.takes_lower (h : Opens seen p) : p.Takes p.lower := by
  have htail : (0x80 : UInt8) ≤ 0xBF := by decide
  refine ⟨UInt8.le_refl _, ?_⟩
  cases h with
  | @ofThree a =>
    by_cases ha : a = 0xE0
    · subst ha
      decide
    · rw [if_neg ha]
      dsimp only
      split <;> decide
  | @ofFour a =>
    by_cases ha : a = 0xF0
    · subst ha
      decide
    · rw [if_neg ha]
      dsimp only
      split <;> decide
  | _ => exact htail

theorem Opens.completes (h : Opens seen p) : ∃ c more, more ≠ [] ∧ utf8EncodeChar c = seen ++ more := by
  induction hmissing : p.missing using Nat.strongRecOn generalizing seen p with
  | _ missing ih =>
    -- The lowest byte between the bounds carries the sequence on, whatever the bounds are.
    have hnext := h.extend h.takes_lower
    split at hnext
    · exact ⟨_, [p.lower], List.cons_ne_nil _ _, hnext.encodeChar⟩
    · obtain ⟨c, more, -, hc⟩ := ih (p.missing - 1) (by omega) hnext rfl
      rw [List.append_assoc] at hc
      exact ⟨c, _, List.cons_ne_nil _ _, hc⟩

theorem Opens.breaks (h : Opens seen p) (hrest : ∀ b more, rest = b :: more → ¬p.Takes b) :
    Breaks seen rest := by
  obtain ⟨c, missing, hmissing, hc⟩ := h.completes
  have hstuck (more : List UInt8) (hmore : more ≠ []) (hpre : more <+: rest) :
      ¬Begins (seen ++ more) := by
    intro hbegins
    obtain ⟨b, more, rfl⟩ := List.exists_cons_of_ne_nil hmore
    obtain ⟨after, rfl⟩ := hpre
    refine hrest b (more ++ after) rfl (h.takes_of_begins (hbegins.of_prefix ⟨more, ?_⟩))
    rw [List.append_assoc]
    rfl
  have hshort (d : Char) : ¬utf8EncodeChar d <+: seen := by
    rintro ⟨after, hafter⟩
    have hboth : utf8EncodeChar d ++ (after ++ missing) = utf8EncodeChar c ++ [] := by
      rw [← List.append_assoc, hafter, hc, List.append_nil]
    exact hmissing (List.append_eq_nil_iff.mp (encodeChar_append_inj hboth).2).2
  refine ⟨?_, fun d hd => ?_, .inl ⟨c, missing, hc.symm⟩, hstuck⟩
  · cases h <;> exact List.cons_ne_nil _ _
  · rcases List.prefix_or_prefix_of_prefix hd (List.prefix_append seen rest) with hpre | ⟨more, hmore⟩
    · exact hshort d hpre
    · have hlonger : more ≠ [] := by
        rintro rfl
        exact hshort d ⟨[], by rw [← hmore, List.append_nil, List.append_nil]⟩
      rw [← hmore] at hd
      exact hstuck more hlonger ((List.prefix_append_right_inj seen).mp hd) ⟨d, [], by simp [hmore]⟩

/-! ### Steps -/

theorem first_of_begins (h : Begins [b]) : b.toNat < 0x80 ∨ 0xC2 ≤ b.toNat ∧ b.toNat < 0xF5 := by
  obtain ⟨c, rest, hc⟩ := h
  have hseq := sequence_encodeChar c
  rw [← hc] at hseq
  generalize c.toNat = n at hseq
  cases hseq with
  | one ha => unfold Within at ha; omega
  | two ha => unfold Within at ha; omega
  | three ha => unfold Within at ha; omega
  | four ha => unfold Within at ha; omega

theorem first_cases (b : UInt8) :
    (∃ c, first b = ([some c], none) ∧ utf8EncodeChar c = [b]) ∨
    (∃ p, first b = ([], some p) ∧ Opens [b] p) ∨
    first b = ([none], none) ∧ ¬Begins [b] := by
  unfold first
  simp only [UInt8.lt_iff_toNat_lt, UInt8.reduceToNat]
  split
  · rename_i h
    exact .inl ⟨_, rfl, (Sequence.one ⟨Nat.zero_le _, Nat.le_of_lt_succ h⟩).encodeChar⟩
  split
  · refine .inr (.inr ⟨rfl, fun hbegins => ?_⟩)
    have := first_of_begins hbegins
    omega
  split
  · exact .inr (.inl ⟨_, rfl, .ofTwo (by unfold Within; omega)⟩)
  split
  · exact .inr (.inl ⟨_, rfl, .ofThree (by unfold Within; omega)⟩)
  split
  · exact .inr (.inl ⟨_, rfl, .ofFour (by unfold Within; omega)⟩)
  · refine .inr (.inr ⟨rfl, fun hbegins => ?_⟩)
    have := first_of_begins hbegins
    omega

theorem Opens.step_cases (h : Opens seen p) (b : UInt8) :
    (∃ c, step (some p) b = ([some c], none) ∧ utf8EncodeChar c = seen ++ [b]) ∨
    (∃ q, step (some p) b = ([], some q) ∧ Opens (seen ++ [b]) q) ∨
    step (some p) b = (none :: (first b).1, (first b).2) ∧ ¬p.Takes b := by
  unfold step
  dsimp only
  by_cases hb : p.Takes b
  · have hnext := h.extend hb
    rw [if_pos (by simpa [Pending.Takes] using hb)]
    split at hnext
    · rename_i hlast
      rw [if_pos hlast]
      exact .inl ⟨_, rfl, hnext.encodeChar⟩
    · rename_i hlast
      rw [if_neg hlast]
      exact .inr (.inl ⟨_, rfl, hnext⟩)
  · rw [if_neg (by simpa [Pending.Takes] using hb)]
    exact .inr (.inr ⟨rfl, hb⟩)

theorem scan_cons (open? : Option Pending) (b : UInt8) (bytes : List UInt8) :
    scan open? (b :: bytes) = (step open? b).1 ++ scan (step open? b).2 bytes := by
  cases open? <;> rfl

/-- The pieces behind what is open are found if those behind nothing are. -/
theorem pieces_scan_open (bytes : List UInt8) :
    Pieces bytes (scan none bytes) ∧
      ∀ seen p, Opens seen p → Pieces (seen ++ bytes) (scan (some p) bytes) := by
  induction bytes with
  | nil =>
    exact ⟨.nil, fun seen p hopen => .broken (hopen.breaks fun b more hrest => nomatch hrest) .nil⟩
  | cons b bytes ih =>
    obtain ⟨hclosed, hopen⟩ := ih
    -- A byte that breaks a sequence is read again as a first byte, so that both halves need this one.
    have hfirst : Pieces (b :: bytes) (scan none (b :: bytes)) := by
      rw [scan_cons]
      change Pieces _ ((first b).1 ++ scan (first b).2 bytes)
      rcases first_cases b with ⟨c, hstep, hc⟩ | ⟨p, hstep, hp⟩ | ⟨hstep, hnone⟩
      all_goals rw [hstep]
      · have h := Pieces.char (c := c) hclosed
        rwa [hc] at h
      · exact hopen [b] p hp
      · exact .broken (breaks_single hnone) hclosed
    refine ⟨hfirst, fun seen p hp => ?_⟩
    rw [scan_cons]
    rcases hp.step_cases b with ⟨c, hstep, hc⟩ | ⟨q, hstep, hq⟩ | ⟨hstep, hstuck⟩
    all_goals rw [hstep]
    · have h := Pieces.char (c := c) hclosed
      rw [hc, List.append_assoc] at h
      exact h
    · have h := hopen _ q hq
      rw [List.append_assoc] at h
      exact h
    · rw [scan_cons] at hfirst
      refine .broken (hp.breaks ?_) hfirst
      rintro _ _ ⟨⟩
      exact hstuck

theorem pieces_scan (bytes : List UInt8) : Pieces bytes (scan none bytes) :=
  (pieces_scan_open bytes).1

theorem decodeLossy_of_pieces {bytes : List UInt8} {pieces : List Piece} (h : Pieces bytes pieces) :
    decodeLossy bytes = mend pieces := by
  rw [h.unique (pieces_scan bytes)]
  rfl

/-- An overlong form breaks at its second byte, which breaks alone. -/
example : decodeLossy [0xE0, 0x80, 0x41] = ['\uFFFD', '\uFFFD', 'A'] := by decide

theorem decodeLossy_encode (cs : List Char) : decodeLossy (encode cs) = cs := by
  rw [decodeLossy_of_pieces (pieces_encode cs), mend_map_some]

theorem decodeLossy_encode_append (cs : List Char) (bytes : List UInt8) :
    decodeLossy (encode cs ++ bytes) = cs ++ decodeLossy bytes := by
  rw [decodeLossy_of_pieces (pieces_encode_append cs (pieces_scan bytes)), mend_append, mend_map_some]
  rfl

end SessionBridge.Utf8
