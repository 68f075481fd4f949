/-!
# The proleptic Gregorian calendar

Days are numbered from 1970-01-01. `Date.dayNumber` numbers a date and `Date.ofDayNumber` finds the
date of a number, for every year.
-/

namespace OrderLookup.Calendar

def isLeapYear (year : Int) : Bool :=
  year % 4 == 0 && (year % 100 != 0 || year % 400 == 0)

/-- Days from January 1 of year 0 to January 1 of `year`. -/
def daysBeforeYear (year : Int) : Int :=
  365 * year + (year + 3) / 4 - (year + 99) / 100 + (year + 399) / 400

def epochDay : Int := 719528

def monthLengths (year : Int) : List Nat :=
  [31, if isLeapYear year then 29 else 28, 31, 30, 31, 30, 31, 31, 30, 31, 30, 31]

def daysInMonth (year : Int) (month : Nat) : Nat :=
  if month = 0 then 0 else (monthLengths year).getD (month - 1) 0

def daysBeforeMonth (year : Int) (month : Nat) : Nat :=
  ((monthLengths year).take (month - 1)).foldl (· + ·) 0

structure Date where
  year : Int
  month : Nat
  day : Nat
  deriving DecidableEq

namespace Date

def IsReal (d : Date) : Prop :=
  1 ≤ d.month ∧ d.month ≤ 12 ∧ 1 ≤ d.day ∧ d.day ≤ daysInMonth d.year d.month

instance (d : Date) : Decidable d.IsReal :=
  inferInstanceAs (Decidable (_ ∧ _ ∧ _ ∧ _))

/-- Days from 1970-01-01 to `d`. -/
def dayNumber (d : Date) : Int :=
  daysBeforeYear d.year - epochDay + daysBeforeMonth d.year d.month + d.day - 1

/-- The year in which the day `n` days after January 1 of year 0 lies. -/
def yearOfDay (n : Int) : Int :=
  let near := 400 * n / 146097
  if n < daysBeforeYear near then near - 1
  else if daysBeforeYear (near + 1) ≤ n then near + 1
  else near

/-- The month, counted from `month`, and the day of the month of the day after `rest` days. -/
def monthDay (month rest : Nat) : List Nat → Nat × Nat
  | [] => (month, rest + 1)
  | length :: later =>
    if rest < length then (month, rest + 1) else monthDay (month + 1) (rest - length) later

def ofDayNumber (n : Int) : Date :=
  let year := yearOfDay (n + epochDay)
  let rest := (n + epochDay - daysBeforeYear year).toNat
  let (month, day) := monthDay 1 rest (monthLengths year)
  ⟨year, month, day⟩

end Date

/-- The day of the week of a numbered day, from 0 for Sunday. -/
def weekday (day : Int) : Int :=
  (day + 4) % 7

end OrderLookup.Calendar
