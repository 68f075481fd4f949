import OrderLookup.Calendar.Zone
import OrderLookup.Text.Decimal
import OrderLookup.Text.Split

/-!
# Zone rules as text

A zone is described by the name and the offset of its standard time, as in `MSK-3`, and may go on
with the same for summer time and with the two days of the year on which the clock changes, as in
`CET-1CEST,M3.5.0,M10.5.0/3`. Offsets count hours west of Greenwich.
-/

namespace OrderLookup.Calendar.ZoneRule

open OrderLookup.Text

/-- A name of letters, or of anything in angle brackets. -/
def name (s : List Char) : Option (List Char) :=
  match s with
  | '<' :: rest =>
    match rest.dropWhile (· != '>') with
    | '>' :: after => some after
    | _ => none
  | _ =>
    let rest := s.dropWhile Char.isAlpha
    if rest.length < s.length then some rest else none

/-- A colon and a number below sixty, or nothing, which counts as zero. -/
def sixtieths : List Char → Option (Nat × List Char)
  | ':' :: s => do
    let (n, s) ← Decimal.run s
    guard (n ≤ 59)
    return (n, s)
  | s => some (0, s)

/-- At most 24 hours, and minutes and seconds if there are any, as seconds. -/
def clock (s : List Char) : Option (Int × List Char) := do
  let (hours, s) ← Decimal.run s
  let (minutes, s) ← sixtieths s
  let (seconds, s) ← sixtieths s
  guard (hours ≤ 24)
  return (hours * 3600 + minutes * 60 + seconds, s)

def signed : List Char → Option (Int × List Char)
  | '-' :: s => (clock s).map fun (t, s) => (-t, s)
  | '+' :: s => clock s
  | s => clock s

/-- The offset of summer time, an hour ahead of standard time if it is left out. -/
def summerOffset (west : Int) (s : List Char) : Option (Int × List Char) :=
  match s with
  | ',' :: _ => some (west - 3600, s)
  | _ => signed s

/-- A day such as `M10.5.0`, or `J60` and `59` for the first of March of a common year. -/
def yearDay : List Char → Option (YearDay × List Char)
  | 'M' :: s => do
    let (month, s) ← Decimal.run s
    let s ← after? '.' s
    let (week, s) ← Decimal.run s
    let s ← after? '.' s
    let (weekday, s) ← Decimal.run s
    guard (1 ≤ month ∧ month ≤ 12 ∧ 1 ≤ week ∧ week ≤ 5 ∧ weekday ≤ 6)
    return (.onWeekday month week weekday, s)
  | 'J' :: s => do
    let (number, s) ← Decimal.run s
    guard (1 ≤ number ∧ number ≤ 365)
    return (.numbered number, s)
  | s => do
    let (days, s) ← Decimal.run s
    guard (days ≤ 365)
    return (.after days, s)

/-- A change such as `M10.5.0/3`; the time is two o'clock if it is left out. -/
def yearlyTime (s : List Char) : Option (YearlyTime × List Char) := do
  let (day, s) ← yearDay s
  match s with
  | '/' :: s =>
    let (time, s) ← clock s
    return (⟨day, time⟩, s)
  | s => return (⟨day, 7200⟩, s)

def read? (rule : String) : Option Zone := do
  let s ← name rule.toList
  let (west, s) ← signed s
  if s.isEmpty then return .fixed (-west)
  let s ← name s
  let (summerWest, s) ← summerOffset west s
  let s ← after? ',' s
  let (summerStart, s) ← yearlyTime s
  let s ← after? ',' s
  let (summerEnd, s) ← yearlyTime s
  guard s.isEmpty
  return .seasonal ⟨-west, -summerWest, summerStart, summerEnd⟩

end OrderLookup.Calendar.ZoneRule
