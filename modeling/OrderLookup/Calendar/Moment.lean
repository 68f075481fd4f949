import OrderLookup.Calendar.Date

/-!
# Moments and clock readings

A moment counts the seconds since 1970-01-01T00:00:00Z. A reading is what a calendar and a clock
show. A leap second shares the count of the second before it and is marked.
-/

namespace OrderLookup.Calendar

/-- A second of universal time. -/
structure Moment where
  seconds : Int
  leap : Bool
  deriving DecidableEq

/-- A second as shown by the calendar and clock of some place. -/
structure Reading where
  seconds : Int
  leap : Bool
  deriving DecidableEq

def firstYear : Int := -262143

def lastYear : Int := 262142

def InYears (year : Int) : Prop :=
  firstYear ≤ year ∧ year ≤ lastYear

instance (year : Int) : Decidable (InYears year) :=
  inferInstanceAs (Decidable (_ ∧ _))

/-- The date and time of day are given by numbers read from a text. -/
structure Fields where
  date : Date
  hour : Nat
  minute : Nat
  second : Nat
  deriving DecidableEq

namespace Fields

/-- The date exists in a covered year and the clock can show the time; second 60 is a leap
second. -/
def IsReal (f : Fields) : Prop :=
  f.date.IsReal ∧ InYears f.date.year ∧ f.hour ≤ 23 ∧ f.minute ≤ 59 ∧ f.second ≤ 60

instance (f : Fields) : Decidable f.IsReal :=
  inferInstanceAs (Decidable (_ ∧ _ ∧ _ ∧ _ ∧ _))

def reading? (f : Fields) : Option Reading :=
  if f.IsReal then
    some
      { seconds :=
          f.date.dayNumber * 86400 + f.hour * 3600 + f.minute * 60 + (min f.second 59 : Nat)
        leap := f.second = 60 }
  else none

end Fields

namespace Reading

def date (r : Reading) : Date :=
  Date.ofDayNumber (r.seconds / 86400)

def timeOfDay (r : Reading) : Nat :=
  (r.seconds % 86400).toNat

def hour (r : Reading) : Nat :=
  r.timeOfDay / 3600

def minute (r : Reading) : Nat :=
  r.timeOfDay / 60 % 60

/-- A leap second shows one more than the second it follows. -/
def second (r : Reading) : Nat :=
  r.timeOfDay % 60 + if r.leap then 1 else 0

end Reading

namespace Moment

def InRange (m : Moment) : Prop :=
  InYears (Reading.mk m.seconds m.leap).date.year

instance (m : Moment) : Decidable m.InRange :=
  inferInstanceAs (Decidable (InYears _))

end Moment

end OrderLookup.Calendar
