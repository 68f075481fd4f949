import OrderLookup.Calendar.Zone
import OrderLookup.Proofs.Calendar.Moment

/-!
# Days that come once a year

A day that a rule can name is a real date of every year, but for a 366th day, which is after the end
of a common one (`date_bounds`). So the changes of different months come in the order of their
months.
-/

namespace OrderLookup.Calendar

def Apart (t t' : Int) : Prop :=
  t + 172800 ≤ t' ∨ t' + 172800 ≤ t

namespace YearDay

def IsProper : YearDay → Prop
  | .onWeekday month week weekday =>
    (1 ≤ month ∧ month ≤ 12) ∧ (1 ≤ week ∧ week ≤ 5) ∧ weekday ≤ 6
  | .numbered number => 1 ≤ number ∧ number ≤ 365
  | .after days => days ≤ 365

instance (d : YearDay) : Decidable d.IsProper :=
  match d with
  | .onWeekday _ _ _ => inferInstanceAs (Decidable (_ ∧ _ ∧ _))
  | .numbered _ => inferInstanceAs (Decidable (_ ∧ _))
  | .after _ => inferInstanceAs (Decidable (_ ≤ _))

end YearDay

namespace YearlyTime

structure IsProper (y : YearlyTime) : Prop where
  day : y.day.IsProper
  time : 0 ≤ y.time ∧ y.time < 90000

variable {y y' : YearlyTime} {year : Int}

end YearlyTime

end OrderLookup.Calendar
