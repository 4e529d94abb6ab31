import Mathlib.Order.Monotone.Basic
import Mathlib.Tactic.IntervalCases
import SessionBridge.Calendar

/-! The calendar, counted off day by day. What a date is made of from the number of its day, with cycles of
four hundred years and years from March on, comes to nothing but this: the first of January 1970 is day 0, and
the next day has the date that follows in the calendar, by the lengths of the months and the rule for leap
years. So the dates are in the order of their days. -/
namespace SessionBridge.Date

/-- Every fourth year has a leap day, of the full centuries only every fourth. -/
def IsLeap (year : Int) : Prop :=
  4 ∣ year ∧ (100 ∣ year → 400 ∣ year)

instance (year : Int) : Decidable (IsLeap year) :=
  inferInstanceAs (Decidable (_ ∧ (_ → _)))

def daysInMonth (year : Int) (month : Nat) : Nat :=
  if month = 2 then if IsLeap year then 29 else 28
  else if month = 4 ∨ month = 6 ∨ month = 9 ∨ month = 11 then 30
  else 31

structure IsProper (d : Date) : Prop where
  month_pos : 1 ≤ d.month
  month_le : d.month ≤ 12
  day_pos : 1 ≤ d.day
  day_le : d.day ≤ daysInMonth d.year d.month

def next (d : Date) : Date :=
  if d.day < daysInMonth d.year d.month then { d with day := d.day + 1 }
  else if d.month < 12 then ⟨d.year, d.month + 1, 1⟩
  else ⟨d.year + 1, 1, 1⟩

/-! ### Years from March -/

def yearLength (year : Int) : Nat :=
  if IsLeap (year + 1) then 366 else 365

/-- The days of a cycle, less the leap days in front of them. -/
def ordinary (day : Nat) : Nat :=
  day - day / 1460 + day / 36524 - day / 146096

theorem ordinary_mono : Monotone ordinary := by
  refine monotone_nat_of_le_succ fun day => ?_
  unfold ordinary
  omega

theorem yearOfCycle_eq (day : Nat) : yearOfCycle day = ordinary day / 365 := rfl

theorem ordinary_yearStart : ∀ year < 400, ordinary (yearStart year) = 365 * year := by
  decide +kernel

theorem yearStart_succ : ∀ year < 399, yearStart (year + 1) = yearStart year + yearLength year := by
  decide +kernel

theorem ordinary_last : ∀ year < 400, ordinary (yearStart year + yearLength year - 1) < 365 * (year + 1) := by
  decide +kernel

theorem yearLength_bounds (year : Int) : 365 ≤ yearLength year ∧ yearLength year ≤ 366 := by
  unfold yearLength
  split <;> decide

theorem yearOfCycle_lt {day : Nat} (h : day < daysInCycle) : yearOfCycle day < 400 := by
  unfold yearOfCycle daysInCycle at *
  omega

theorem yearOfCycle_eq_of_mem {day year : Nat} (hyear : year < 400) (hstart : yearStart year ≤ day)
    (hend : day < yearStart year + yearLength year) : yearOfCycle day = year := by
  have hlow : ordinary (yearStart year) ≤ ordinary day := ordinary_mono hstart
  have hhigh : ordinary day ≤ ordinary (yearStart year + yearLength year - 1) :=
    ordinary_mono (by omega)
  rw [ordinary_yearStart year hyear] at hlow
  have hlast := ordinary_last year hyear
  rw [yearOfCycle_eq]
  omega

theorem yearStart_le {day : Nat} (h : day < daysInCycle) : yearStart (yearOfCycle day) ≤ day := by
  by_contra hlt
  rcases hyear : yearOfCycle day with _ | year
  · rw [hyear] at hlt
    exact hlt (Nat.zero_le day)
  · have hbound := yearOfCycle_lt h
    rw [hyear] at hlt hbound
    rw [yearStart_succ year (by omega)] at hlt
    have hhigh : ordinary day ≤ ordinary (yearStart year + yearLength year - 1) :=
      ordinary_mono (by omega)
    have hlast := ordinary_last year (by omega)
    rw [yearOfCycle_eq] at hyear
    omega

theorem lt_yearEnd {day : Nat} (h : day < daysInCycle) :
    day < yearStart (yearOfCycle day) + yearLength (yearOfCycle day) := by
  by_contra hge
  have hbound := yearOfCycle_lt h
  generalize hyear : yearOfCycle day = year at hge hbound
  rcases Nat.lt_or_ge year 399 with hlt | hlast
  · rw [← yearStart_succ year hlt] at hge
    have hlow : ordinary (yearStart (year + 1)) ≤ ordinary day := ordinary_mono (by omega)
    rw [ordinary_yearStart (year + 1) (by omega)] at hlow
    rw [yearOfCycle_eq] at hyear
    omega
  · obtain rfl : year = 399 := by omega
    exact hge h

/-! ### Months from March -/

def ofMarch (year : Int) (dayOfYear : Nat) : Date :=
  let month := (5 * dayOfYear + 2) / 153
  { year := year + (if month < 10 then 0 else 1)
    month := if month < 10 then month + 3 else month - 9
    day := dayOfYear - monthStart month + 1 }

def dayOfCycle (number : Int) : Nat :=
  ((number - cycleStart) % daysInCycle).toNat

def marchYear (number : Int) : Int :=
  (number - cycleStart) / daysInCycle * 400 + yearOfCycle (dayOfCycle number)

def dayOfYear (number : Int) : Nat :=
  dayOfCycle number - yearStart (yearOfCycle (dayOfCycle number))

theorem ofDay_eq (number : Int) : ofDay number = ofMarch (marchYear number) (dayOfYear number) := rfl

theorem dayOfCycle_lt (number : Int) : dayOfCycle number < daysInCycle := by
  unfold dayOfCycle daysInCycle
  omega

theorem isLeap_add_cycles (year cycles : Int) : IsLeap (cycles * 400 + year) ↔ IsLeap year := by
  unfold IsLeap
  omega

theorem yearLength_add_cycles (year cycles : Int) : yearLength (cycles * 400 + year) = yearLength year := by
  unfold yearLength
  rw [Int.add_assoc]
  simp only [isLeap_add_cycles]

theorem yearLength_marchYear (number : Int) :
    yearLength (marchYear number) = yearLength (yearOfCycle (dayOfCycle number)) :=
  yearLength_add_cycles _ _

theorem dayOfYear_lt (number : Int) : dayOfYear number < yearLength (marchYear number) := by
  rw [yearLength_marchYear, dayOfYear]
  have := lt_yearEnd (dayOfCycle_lt number)
  have := yearStart_le (dayOfCycle_lt number)
  omega

theorem march_succ (number : Int) :
    dayOfYear number + 1 < yearLength (marchYear number) ∧ marchYear (number + 1) = marchYear number ∧
        dayOfYear (number + 1) = dayOfYear number + 1 ∨
      dayOfYear number + 1 = yearLength (marchYear number) ∧
        marchYear (number + 1) = marchYear number + 1 ∧ dayOfYear (number + 1) = 0 := by
  have hday := dayOfCycle_lt number
  have hstart := yearStart_le hday
  have hend := lt_yearEnd hday
  have hyear := yearOfCycle_lt hday
  rw [yearLength_marchYear]
  unfold marchYear dayOfYear
  generalize hd : dayOfCycle number = day at *
  generalize hy : yearOfCycle day = year at *
  rcases Nat.lt_or_ge (day + 1) daysInCycle with hwithin | hlast
  · -- The cycle goes on, so the next day is the next one of the cycle.
    have hnext : dayOfCycle (number + 1) = day + 1 := by
      unfold dayOfCycle daysInCycle at *
      omega
    have hcycle : (number + 1 - cycleStart) / daysInCycle = (number - cycleStart) / daysInCycle := by
      unfold dayOfCycle daysInCycle at *
      omega
    rw [hnext, hcycle]
    rcases Nat.lt_or_ge (day + 1) (yearStart year + yearLength year) with hsame | hnew
    · rw [yearOfCycle_eq_of_mem hyear (by omega) hsame]
      exact .inl ⟨by omega, rfl, by omega⟩
    · have hbefore : year < 399 := by
        by_contra hge
        obtain rfl : year = 399 := by omega
        exact absurd hwithin (Nat.not_lt_of_le hnew)
      have hfirst := yearStart_succ year hbefore
      have hlength := yearLength_bounds (year + 1 : Nat)
      have hyear' : year + 1 < 400 := by omega
      rw [yearOfCycle_eq_of_mem hyear' (by omega) (by omega)]
      exact .inr ⟨by omega, by push_cast; omega, by omega⟩
  · -- The last day of the cycle is the last one of its last year.
    have hnext : dayOfCycle (number + 1) = 0 := by
      unfold dayOfCycle daysInCycle at *
      omega
    have hcycle : (number + 1 - cycleStart) / daysInCycle = (number - cycleStart) / daysInCycle + 1 := by
      unfold dayOfCycle daysInCycle at *
      omega
    obtain rfl : day = 146096 := by
      unfold daysInCycle at *
      omega
    obtain rfl : year = 399 := hy.symm
    rw [hnext, hcycle]
    refine .inr ⟨rfl, ?_, rfl⟩
    change _ + (0 : Int) = _ + (399 : Int) + 1
    omega

def calendarMonth (month : Nat) : Nat :=
  if month < 10 then month + 3 else month - 9

def calendarYear (year : Int) (month : Nat) : Int :=
  year + if month < 10 then 0 else 1

theorem ofMarch_eq {year : Int} {day month : Nat} (hstart : monthStart month ≤ day)
    (hend : day < monthStart (month + 1)) :
    ofMarch year day = ⟨calendarYear year month, calendarMonth month, day - monthStart month + 1⟩ := by
  have hmonth : (5 * day + 2) / 153 = month := by
    unfold monthStart at hstart hend
    omega
  rw [ofMarch, hmonth]
  rfl

theorem monthStart_succ (year : Int) {month : Nat} (h : month < 11) :
    monthStart (month + 1) =
      monthStart month + daysInMonth (calendarYear year month) (calendarMonth month) := by
  interval_cases month <;> rfl

theorem daysInMonth_february (year : Int) :
    yearLength year = monthStart 11 + daysInMonth (calendarYear year 11) (calendarMonth 11) := by
  change yearLength year = 337 + if IsLeap (year + 1) then 29 else 28
  unfold yearLength
  split <;> rfl

theorem next_of_month_end {d : Date} {month : Nat} (year : Int) (hmonth : month < 11)
    (hd : d = ⟨calendarYear year month, calendarMonth month,
      daysInMonth (calendarYear year month) (calendarMonth month)⟩) :
    d.next = ⟨calendarYear year (month + 1), calendarMonth (month + 1), 1⟩ := by
  rw [hd, next, if_neg (Nat.lt_irrefl _)]
  interval_cases month <;> simp [calendarMonth, calendarYear]

theorem exists_month {year : Int} {day : Nat} (h : day < yearLength year) :
    ∃ month < 12, monthStart month ≤ day ∧ day < monthStart (month + 1) ∧
      day < monthStart month + daysInMonth (calendarYear year month) (calendarMonth month) := by
  have hlength := yearLength_bounds year
  have hmonth : (5 * day + 2) / 153 < 12 := by omega
  have hstart : monthStart ((5 * day + 2) / 153) ≤ day := by
    unfold monthStart
    omega
  have hend : day < monthStart ((5 * day + 2) / 153 + 1) := by
    unfold monthStart
    omega
  generalize (5 * day + 2) / 153 = month at *
  refine ⟨month, hmonth, hstart, hend, ?_⟩
  rcases Nat.lt_or_ge month 11 with hlt | hge
  · rw [← monthStart_succ year hlt]
    exact hend
  · obtain rfl : month = 11 := by omega
    rw [← daysInMonth_february]
    exact h

theorem ofMarch_within {year : Int} {day month : Nat} (hstart : monthStart month ≤ day)
    (hnext : day + 1 < monthStart (month + 1))
    (hwithin : day + 1 < monthStart month + daysInMonth (calendarYear year month) (calendarMonth month)) :
    ofMarch year (day + 1) = (ofMarch year day).next := by
  rw [ofMarch_eq hstart (by omega), ofMarch_eq (by omega) hnext, next, if_pos (by dsimp only; omega),
    Nat.succ_sub hstart]

theorem ofMarch_succ {year : Int} {day : Nat} (h : day + 1 < yearLength year) :
    ofMarch year (day + 1) = (ofMarch year day).next := by
  obtain ⟨month, hmonth, hstart, hend, -⟩ := exists_month (Nat.lt_of_succ_lt h)
  rcases Nat.lt_or_ge month 11 with hlt | hge
  · have hsucc := monthStart_succ year hlt
    rcases Nat.lt_or_ge (day + 1) (monthStart (month + 1)) with hsame | hnew
    · exact ofMarch_within hstart hsame (by omega)
    · have hthere : day + 1 < monthStart (month + 1 + 1) := by
        unfold monthStart at *
        omega
      rw [ofMarch_eq hstart hend, ofMarch_eq hnew hthere, next_of_month_end year hlt]
      · congr 1
        omega
      · congr 1
        omega
  · obtain rfl : month = 11 := by omega
    have hlength := yearLength_bounds year
    have hfebruary := daysInMonth_february year
    have hend' : monthStart (11 + 1) = 367 := rfl
    exact ofMarch_within hstart (by omega) (by omega)

theorem ofMarch_new_year {year : Int} {day : Nat} (h : day + 1 = yearLength year) :
    ofMarch (year + 1) 0 = (ofMarch year day).next := by
  have hlength := yearLength_bounds year
  have hfebruary := daysInMonth_february year
  have hstart : monthStart 11 ≤ day := by
    change 337 ≤ day
    omega
  have hend : monthStart (11 + 1) = 367 := rfl
  rw [ofMarch_eq hstart (by omega), next, if_neg (by dsimp only; omega)]
  simp [ofMarch, calendarMonth, calendarYear, monthStart]

theorem ofDay_succ (number : Int) : ofDay (number + 1) = (ofDay number).next := by
  rw [ofDay_eq, ofDay_eq]
  rcases march_succ number with ⟨hwithin, hyear, hday⟩ | ⟨hlast, hyear, hday⟩
  · rw [hyear, hday]
    exact ofMarch_succ hwithin
  · rw [hyear, hday]
    exact ofMarch_new_year hlast

/-! ### Dates in order -/

def Before (d e : Date) : Prop :=
  d.year < e.year ∨ d.year = e.year ∧ (d.month < e.month ∨ d.month = e.month ∧ d.day < e.day)

instance : IsTrans Date Before where
  trans d e f hde hef := by
    unfold Before at *
    omega

theorem before_irrefl (d : Date) : ¬d.Before d := by
  unfold Before
  omega

theorem before_next (d : Date) : d.Before d.next := by
  unfold next Before
  split
  · exact .inr ⟨rfl, .inr ⟨rfl, Nat.lt_succ_self _⟩⟩
  split
  · exact .inr ⟨rfl, .inl (Nat.lt_succ_self _)⟩
  · exact .inl (Int.lt_succ _)

theorem ofDay_before {m n : Int} (h : m < n) : (ofDay m).Before (ofDay n) := by
  refine Int.rel_of_forall_rel_succ_of_lt Before (fun k => ?_) h
  rw [ofDay_succ]
  exact before_next _

theorem ofDay_inj {m n : Int} (h : ofDay m = ofDay n) : m = n := by
  rcases Int.lt_trichotomy m n with hlt | heq | hlt
  · have hbefore := ofDay_before hlt
    rw [h] at hbefore
    exact absurd hbefore (before_irrefl _)
  · exact heq
  · have hbefore := ofDay_before hlt
    rw [h] at hbefore
    exact absurd hbefore (before_irrefl _)

/-! ### Dates counted off -/

/-- The date of a day, counted off in both directions from the first of January 1970, which is day 0. -/
inductive IsDay : Int → Date → Prop where
  | epoch : IsDay 0 ⟨1970, 1, 1⟩
  | next {number : Int} {d : Date} (h : IsDay number d) : IsDay (number + 1) d.next
  | previous {number : Int} {d : Date} (hproper : d.IsProper) (h : IsDay (number + 1) d.next) : IsDay number d

theorem calendarMonth_bounds {month : Nat} (h : month < 12) :
    1 ≤ calendarMonth month ∧ calendarMonth month ≤ 12 := by
  unfold calendarMonth
  split <;> omega

theorem ofDay_proper (number : Int) : (ofDay number).IsProper := by
  obtain ⟨month, hmonth, hstart, hend, hwithin⟩ := exists_month (dayOfYear_lt number)
  rw [ofDay_eq, ofMarch_eq hstart hend]
  refine ⟨(calendarMonth_bounds hmonth).1, (calendarMonth_bounds hmonth).2, Nat.le_add_left 1 _, ?_⟩
  dsimp only
  omega

theorem eq_of_fields {d e : Date} (hyear : d.year = e.year) (hmonth : d.month = e.month)
    (hday : d.day = e.day) : d = e := by
  cases d
  cases e
  cases hyear
  cases hmonth
  cases hday
  rfl

theorem next_cases (d : Date) :
    d.day < daysInMonth d.year d.month ∧ d.next = ⟨d.year, d.month, d.day + 1⟩ ∨
      daysInMonth d.year d.month ≤ d.day ∧
        (d.month < 12 ∧ d.next = ⟨d.year, d.month + 1, 1⟩ ∨
          12 ≤ d.month ∧ d.next = ⟨d.year + 1, 1, 1⟩) := by
  unfold next
  split
  next h => exact .inl ⟨h, rfl⟩
  next h =>
    split
    next hmonth => exact .inr ⟨Nat.le_of_not_lt h, .inl ⟨hmonth, rfl⟩⟩
    next hmonth => exact .inr ⟨Nat.le_of_not_lt h, .inr ⟨Nat.le_of_not_lt hmonth, rfl⟩⟩

theorem IsProper.next_inj {d e : Date} (hd : d.IsProper) (he : e.IsProper) (h : d.next = e.next) :
    d = e := by
  obtain ⟨hdpos, hdle, hdday, hdend⟩ := hd
  obtain ⟨hepos, hele, heday, heend⟩ := he
  have hyears := congrArg year h
  have hmonths := congrArg month h
  have hdays := congrArg day h
  rcases d.next_cases with ⟨-, hnext⟩ | ⟨hlast, ⟨-, hnext⟩ | ⟨hyearEnd, hnext⟩⟩ <;>
    rcases e.next_cases with ⟨-, hnext'⟩ | ⟨hlast', ⟨-, hnext'⟩ | ⟨hyearEnd', hnext'⟩⟩ <;>
    simp only [hnext, hnext'] at hyears hmonths hdays
  all_goals try omega
  · exact eq_of_fields hyears hmonths (by omega)
  · have hmonth : d.month = e.month := by omega
    rw [hyears, hmonth] at hlast hdend
    exact eq_of_fields hyears hmonth (by omega)
  · have hyear : d.year = e.year := by omega
    have hmonth : d.month = e.month := by omega
    rw [hyear, hmonth] at hlast hdend
    exact eq_of_fields hyear hmonth (by omega)

theorem IsDay.ofDay_eq {number : Int} {d : Date} (h : IsDay number d) : ofDay number = d := by
  induction h with
  | epoch => decide
  | next _ ih => rw [ofDay_succ, ih]
  | previous hproper _ ih =>
    rw [ofDay_succ] at ih
    exact (ofDay_proper _).next_inj hproper ih

theorem isDay_ofDay (number : Int) : IsDay number (ofDay number) := by
  induction number using Int.induction_on with
  | zero => exact .epoch
  | succ n ih =>
    rw [ofDay_succ]
    exact .next ih
  | pred n ih =>
    refine .previous (ofDay_proper _) ?_
    rw [← ofDay_succ, Int.sub_add_cancel]
    exact ih

end SessionBridge.Date
