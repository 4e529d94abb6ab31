import SessionBridge.Text.Decimal

/-! Moments and their date and time in universal time, in the Gregorian calendar extended to all
years. Years are counted from March, so that the leap day is the last day of its year and the months
in front of it have the same lengths in every year. -/
namespace SessionBridge

/-- A moment: seconds since the start of 1970, and nanoseconds, of which there is a second more than
usual in a leap second. -/
structure Instant where
  seconds : Int
  nanos : Nat
  deriving DecidableEq, Inhabited

structure Date where
  year : Int
  month : Nat
  day : Nat
  deriving DecidableEq, Inhabited

structure DateTime where
  date : Date
  hour : Nat
  minute : Nat
  second : Nat
  deriving DecidableEq, Inhabited

namespace Date

def daysInCycle : Nat := 146097

/-- The number, in days since the start of 1970, of the first of March of the year 0. -/
def cycleStart : Int := -719468

def monthStart (month : Nat) : Nat :=
  (153 * month + 2) / 5

def yearOfCycle (day : Nat) : Nat :=
  (day - day / 1460 + day / 36524 - day / 146096) / 365

def yearStart (year : Nat) : Nat :=
  365 * year + year / 4 - year / 100

def ofDay (number : Int) : Date :=
  let fromStart := number - cycleStart
  let cycle := fromStart / daysInCycle
  let day := (fromStart % daysInCycle).toNat
  let year := yearOfCycle day
  let dayOfYear := day - yearStart year
  let month := (5 * dayOfYear + 2) / 153
  { year := cycle * 400 + year + (if month < 10 then 0 else 1)
    month := if month < 10 then month + 3 else month - 9
    day := dayOfYear - monthStart month + 1 }

def toDay (d : Date) : Int :=
  let shifted := if 2 < d.month then d.year else d.year - 1
  let month := if 2 < d.month then d.month - 3 else d.month + 9
  cycleStart + shifted / 400 * daysInCycle + yearStart (shifted % 400).toNat + monthStart month +
    (d.day - 1 : Int)

end Date

namespace DateTime

def secondsInDay : Int := 86400

def isYear (year : Int) : Bool :=
  -262143 ≤ year && year ≤ 262142

/-- Date and time of a moment. Beyond the years there are none, and a leap second can only follow the
last second of a minute. -/
def ofInstant? (t : Instant) : Option DateTime :=
  let date := Date.ofDay (t.seconds / secondsInDay)
  let second := (t.seconds % secondsInDay).toNat
  if !isYear date.year then none
  else if t.nanos < 1000000000 then some ⟨date, second / 3600, second / 60 % 60, second % 60⟩
  else if t.nanos < 2000000000 && second % 60 = 59 then
    some ⟨date, second / 3600, second / 60 % 60, 60⟩
  else none

/-- A year in four digits; one that has no four digits carries its sign. -/
def yearText (year : Int) : String :=
  if 0 ≤ year then
    if year ≤ 9999 then Text.padded 4 year.toNat else "+" ++ Text.padded 4 year.toNat
  else "-" ++ Text.padded 4 year.natAbs

def stamp (t : DateTime) : String :=
  yearText t.date.year ++ "-" ++ Text.padded 2 t.date.month ++ "-" ++ Text.padded 2 t.date.day ++
    "_" ++ Text.padded 2 t.hour ++ "_" ++ Text.padded 2 t.minute ++ "_" ++ Text.padded 2 t.second

end DateTime

end SessionBridge
