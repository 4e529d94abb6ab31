import SessionBridge.Proofs.Calendar.Succession
import SessionBridge.Proofs.Text.Numeral

/-! Date and time of a moment, and the stamps that show them. Moments are in the order of their dates and
times. In the years with four digits a stamp has a fixed form, so that stamps as texts are in that order too,
and in all years different dates and times have different stamps. -/
namespace SessionBridge.DateTime

open Text (Numeral)

/-- The date and time of a number of seconds since the start of 1970. -/
structure Tells (d : DateTime) (seconds : Int) : Prop where
  date : Date.IsDay (seconds / secondsInDay) d.date
  time : seconds % secondsInDay = d.hour * 3600 + d.minute * 60 + d.second
  hour : d.hour < 24
  minute : d.minute < 60
  second : d.second < 60

def Before (d e : DateTime) : Prop :=
  d.date.Before e.date ∨ d.date = e.date ∧
    (d.hour < e.hour ∨ d.hour = e.hour ∧ (d.minute < e.minute ∨ d.minute = e.minute ∧ d.second < e.second))

def HasFourDigits (year : Int) : Prop :=
  0 ≤ year ∧ year ≤ 9999

/-- The form -mm-dd_hh_mm_ss, which all years have in common. -/
def IsTail (d : DateTime) (cs : List Char) : Prop :=
  ∃ month day hour minute second,
    cs = '-' :: (month ++ '-' :: (day ++ '_' :: (hour ++ '_' :: (minute ++ '_' :: second)))) ∧
    Numeral 2 d.date.month month ∧ Numeral 2 d.date.day day ∧
    Numeral 2 d.hour hour ∧ Numeral 2 d.minute minute ∧ Numeral 2 d.second second

def IsStamp (d : DateTime) (cs : List Char) : Prop :=
  ∃ year tail, cs = year ++ tail ∧ Numeral 4 d.date.year.toNat year ∧ d.IsTail tail

variable {d e : DateTime} {seconds seconds' : Int} {t : Instant}
  {cs ds : List Char}

/-! ### Moments -/

/-- Outside leap seconds, date and time are those of the second, whatever the nanoseconds are. -/
theorem tells_of_ofInstant? (hnanos : t.nanos < 1000000000) (h : ofInstant? t = some d) :
    d.Tells t.seconds := by
  unfold ofInstant? at h
  dsimp only at h
  split at h
  · cases h
  cases h
  have hday := Date.isDay_ofDay (t.seconds / secondsInDay)
  refine ⟨hday, ?_, ?_, ?_, ?_⟩ <;>
    · unfold secondsInDay
      dsimp only
      omega

theorem Tells.before (hd : d.Tells seconds) (he : e.Tells seconds') (h : seconds < seconds') :
    d.Before e := by
  obtain ⟨hdate, htime, hhour, hminute, hsecond⟩ := hd
  obtain ⟨hdate', htime', hhour', hminute', hsecond'⟩ := he
  unfold Before
  rw [← hdate.ofDay_eq, ← hdate'.ofDay_eq]
  have hday : seconds / secondsInDay ≤ seconds' / secondsInDay :=
    Int.ediv_le_ediv (by decide) (Int.le_of_lt h)
  rcases Int.lt_or_eq_of_le hday with hlt | heq
  · exact .inl (Date.ofDay_before hlt)
  · refine .inr ⟨by rw [heq], ?_⟩
    unfold secondsInDay at *
    omega

theorem Tells.unique (hd : d.Tells seconds) (hd' : d.Tells seconds') : seconds = seconds' := by
  have hday := Date.ofDay_inj (hd.date.ofDay_eq.trans hd'.date.ofDay_eq.symm)
  have htime := hd.time.trans hd'.time.symm
  unfold secondsInDay at *
  omega

theorem Tells.eq (hd : d.Tells seconds) (he : e.Tells seconds) : d = e := by
  obtain ⟨hdate, htime, hhour, hminute, hsecond⟩ := hd
  obtain ⟨hdate', htime', hhour', hminute', hsecond'⟩ := he
  obtain ⟨date, hour, minute, second⟩ := d
  obtain ⟨date', hour', minute', second'⟩ := e
  dsimp only at *
  obtain rfl : date = date' := hdate.ofDay_eq.symm.trans hdate'.ofDay_eq
  obtain ⟨rfl, rfl, rfl⟩ : hour = hour' ∧ minute = minute' ∧ second = second' := by omega
  rfl

/-! ### Tails -/

theorem IsTail.length (h : d.IsTail cs) : cs.length = 15 := by
  obtain ⟨month, day, hour, minute, second, rfl, hmonth, hday, hhour, hminute, hsecond⟩ := h
  simp [hmonth.length, hday.length, hhour.length, hminute.length, hsecond.length]

theorem IsTail.chars (h : d.IsTail cs) : ∀ c ∈ cs, c.isDigit = true ∨ c = '-' ∨ c = '_' := by
  obtain ⟨month, day, hour, minute, second, rfl, hmonth, hday, hhour, hminute, hsecond⟩ := h
  intro c hmem
  simp only [List.mem_cons, List.mem_append] at hmem
  rcases hmem with rfl | hmem | rfl | hmem | rfl | hmem | rfl | hmem | rfl | hmem
  · exact .inr (.inl rfl)
  · exact .inl (hmonth.digits c hmem)
  · exact .inr (.inl rfl)
  · exact .inl (hday.digits c hmem)
  · exact .inr (.inr rfl)
  · exact .inl (hhour.digits c hmem)
  · exact .inr (.inr rfl)
  · exact .inl (hminute.digits c hmem)
  · exact .inr (.inr rfl)
  · exact .inl (hsecond.digits c hmem)

theorem IsTail.eq_fields (h : d.IsTail cs) (h' : e.IsTail cs) :
    d.date.month = e.date.month ∧ d.date.day = e.date.day ∧ d.hour = e.hour ∧ d.minute = e.minute ∧
      d.second = e.second := by
  obtain ⟨month, day, hour, minute, second, rfl, hmonth, hday, hhour, hminute, hsecond⟩ := h
  obtain ⟨month', day', hour', minute', second', heq, hmonth', hday', hhour', hminute', hsecond'⟩ := h'
  obtain ⟨hm, heq⟩ := hmonth.append_inj hmonth' (List.tail_eq_of_cons_eq heq)
  obtain ⟨hd, heq⟩ := hday.append_inj hday' (List.tail_eq_of_cons_eq heq)
  obtain ⟨hh, heq⟩ := hhour.append_inj hhour' (List.tail_eq_of_cons_eq heq)
  obtain ⟨hmin, heq⟩ := hminute.append_inj hminute' (List.tail_eq_of_cons_eq heq)
  obtain rfl := List.tail_eq_of_cons_eq heq
  exact ⟨hm, hd, hh, hmin, hsecond.value.symm.trans hsecond'.value⟩

theorem IsTail.lt (h : d.IsTail cs) (h' : e.IsTail ds)
    (hbefore : d.date.month < e.date.month ∨ d.date.month = e.date.month ∧
      (d.date.day < e.date.day ∨ d.date.day = e.date.day ∧
        (d.hour < e.hour ∨ d.hour = e.hour ∧
          (d.minute < e.minute ∨ d.minute = e.minute ∧ d.second < e.second)))) : cs < ds := by
  obtain ⟨month, day, hour, minute, second, rfl, hmonth, hday, hhour, hminute, hsecond⟩ := h
  obtain ⟨month', day', hour', minute', second', rfl, hmonth', hday', hhour', hminute', hsecond'⟩ := h'
  refine .cons (hmonth.lt_append hmonth' (hbefore.imp_right (And.imp_right fun hbefore => .cons ?_)))
  refine hday.lt_append hday' (hbefore.imp_right (And.imp_right fun hbefore => .cons ?_))
  refine hhour.lt_append hhour' (hbefore.imp_right (And.imp_right fun hbefore => .cons ?_))
  refine hminute.lt_append hminute' (hbefore.imp_right (And.imp_right fun hbefore => .cons ?_))
  exact hsecond.lt hsecond' hbefore

/-! ### Stamps -/

theorem IsStamp.lt (h : d.IsStamp cs) (h' : e.IsStamp ds) (hyear : HasFourDigits d.date.year)
    (hbefore : d.Before e) : cs < ds := by
  obtain ⟨year, tail, rfl, hnumeral, htail⟩ := h
  obtain ⟨year', tail', rfl, hnumeral', htail'⟩ := h'
  refine hnumeral.lt_append hnumeral' ?_
  rcases hbefore with (hlt | ⟨heq, hdate⟩) | ⟨heq, htime⟩
  · have hpos := hyear.1
    exact .inl (by omega)
  · exact .inr ⟨congrArg Int.toNat heq, htail.lt htail' (hdate.imp_right (And.imp_right .inl))⟩
  · rw [heq]
    refine .inr ⟨rfl, htail.lt htail' ?_⟩
    rw [heq]
    exact .inr ⟨rfl, .inr ⟨rfl, htime⟩⟩

theorem IsStamp.length (h : d.IsStamp cs) : cs.length = 19 := by
  obtain ⟨year, tail, rfl, hnumeral, htail⟩ := h
  rw [List.length_append, hnumeral.length, htail.length]

theorem IsStamp.chars (h : d.IsStamp cs) : ∀ c ∈ cs, c.isDigit = true ∨ c = '-' ∨ c = '_' := by
  obtain ⟨year, tail, rfl, hnumeral, htail⟩ := h
  intro c hmem
  rcases List.mem_append.mp hmem with hmem | hmem
  · exact .inl (hnumeral.digits c hmem)
  · exact htail.chars c hmem

theorem toList_padded (width n : Nat) : (Text.padded width n).toList = Text.paddedDigits width n :=
  String.toList_ofList

theorem toList_stamp (d : DateTime) :
    d.stamp.toList = (yearText d.date.year).toList ++
      '-' :: (Text.paddedDigits 2 d.date.month ++ '-' :: (Text.paddedDigits 2 d.date.day ++
        '_' :: (Text.paddedDigits 2 d.hour ++ '_' :: (Text.paddedDigits 2 d.minute ++
          '_' :: Text.paddedDigits 2 d.second)))) := by
  unfold stamp
  simp [toList_padded]

theorem daysInMonth_le (year : Int) (month : Nat) : Date.daysInMonth year month ≤ 31 := by
  unfold Date.daysInMonth
  split
  · split <;> decide
  · split <;> decide

theorem Tells.tail (h : d.Tells seconds) :
    ∃ tail, d.stamp.toList = (yearText d.date.year).toList ++ tail ∧ d.IsTail tail := by
  have hproper := Date.ofDay_proper (seconds / secondsInDay)
  rw [h.date.ofDay_eq] at hproper
  obtain ⟨-, hmonth, -, hday⟩ := hproper
  have hmonths := daysInMonth_le d.date.year d.date.month
  obtain ⟨-, -, hhour, hminute, hsecond⟩ := h
  have hnumeral {n : Nat} (hn : n < 100) : Numeral 2 n (Text.paddedDigits 2 n) :=
    Text.numeral_paddedDigits (by decide) hn
  exact ⟨_, toList_stamp d, _, _, _, _, _, rfl, hnumeral (by omega), hnumeral (by omega),
    hnumeral (by omega), hnumeral (by omega), hnumeral (by omega)⟩

theorem Tells.isStamp (h : d.Tells seconds) (hyear : HasFourDigits d.date.year) :
    d.IsStamp d.stamp.toList := by
  obtain ⟨tail, htoList, htail⟩ := h.tail
  have htext : (yearText d.date.year).toList = Text.paddedDigits 4 d.date.year.toNat := by
    rw [yearText, if_pos hyear.1, if_pos hyear.2, toList_padded]
  rw [htext] at htoList
  have hbound := hyear.2
  exact ⟨_, tail, htoList, Text.numeral_paddedDigits (by decide) (by omega), htail⟩

/-! ### Years -/

def readYear : List Char → Int
  | '+' :: cs => Nat.ofDigitChars 10 cs 0
  | '-' :: cs => -Nat.ofDigitChars 10 cs 0
  | cs => Nat.ofDigitChars 10 cs 0

theorem readYear_digits (h : ∀ c ∈ cs, c.isDigit = true) : readYear cs = Nat.ofDigitChars 10 cs 0 := by
  unfold readYear
  split
  · exact absurd (h '+' List.mem_cons_self) (by decide)
  · exact absurd (h '-' List.mem_cons_self) (by decide)
  · rfl

theorem readYear_yearText (year : Int) : readYear (yearText year).toList = year := by
  have hvalue (n : Nat) : Nat.ofDigitChars 10 (Text.padded 4 n).toList 0 = n := by
    rw [toList_padded, Text.value_paddedDigits]
  unfold yearText
  split
  next hpos =>
    split
    next =>
      rw [toList_padded, readYear_digits fun _ => Text.isDigit_of_mem_paddedDigits,
        Text.value_paddedDigits]
      exact Int.toNat_of_nonneg hpos
    next =>
      rw [String.toList_append]
      change (Nat.ofDigitChars 10 (Text.padded 4 year.toNat).toList 0 : Int) = year
      rw [hvalue]
      exact Int.toNat_of_nonneg hpos
  next hneg =>
    rw [String.toList_append]
    change -(Nat.ofDigitChars 10 (Text.padded 4 year.natAbs).toList 0 : Int) = year
    rw [hvalue]
    omega

theorem Tells.eq_of_stamp_eq (hd : d.Tells seconds) (he : e.Tells seconds') (h : d.stamp = e.stamp) :
    d = e := by
  obtain ⟨tail, htoList, htail⟩ := hd.tail
  obtain ⟨tail', htoList', htail'⟩ := he.tail
  have hchars := congrArg String.toList h
  rw [htoList, htoList'] at hchars
  obtain ⟨hyears, rfl⟩ := List.append_inj' hchars (htail.length.trans htail'.length.symm)
  have hyear : d.date.year = e.date.year := by
    rw [← readYear_yearText d.date.year, hyears, readYear_yearText]
  obtain ⟨hmonth, hday, hhour, hminute, hsecond⟩ := htail.eq_fields htail'
  have hdate := Date.eq_of_fields hyear hmonth hday
  cases d
  cases e
  cases hdate
  cases hhour
  cases hminute
  cases hsecond
  rfl

end SessionBridge.DateTime
