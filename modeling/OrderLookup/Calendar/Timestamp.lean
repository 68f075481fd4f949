import OrderLookup.Calendar.Zone
import OrderLookup.Text.Blank
import OrderLookup.Text.Decimal
import OrderLookup.Text.Split

/-!
# Reading timestamps

A timestamp is written in one of four forms, tried in this order: with an offset (`withOffset`),
without one down to the second (`toSecond`) or to the minute (`toMinute`), or as a plain date
(`plainDate`). The first form is strict; in the others white space may precede each number, numbers
may be shorter than usual and a year with a sign may have any number of digits.
-/

namespace OrderLookup.Calendar.Timestamp

open OrderLookup.Text

def fraction : List Char → Option (List Char)
  | '.' :: s => (Decimal.run s).map (·.2)
  | s => some s

/-- `Z`, or a sign, two digits of hours, a colon and two digits of minutes, as seconds east of
Greenwich. -/
def offset : List Char → Option (Int × List Char)
  | [] => none
  | c :: s =>
    if c = 'Z' ∨ c = 'z' then some (0, s)
    else do
      let sign ← if c = '+' then some 1 else if c = '-' ∨ c = '\u2212' then some (-1) else none
      let (hours, s) ← Decimal.exactly 2 s
      let s ← after? ':' s
      let (minutes, s) ← Decimal.exactly 2 s
      guard (hours ≤ 23 ∧ minutes ≤ 59)
      return (sign * (hours * 3600 + minutes * 60 : Nat), s)

/-- `YYYY-MM-DD`, `T` or a blank, `HH:MM:SS` with or without a fraction, and an offset. -/
def withOffset (s : List Char) : Option Moment := do
  let (year, s) ← Decimal.exactly 4 s
  let s ← after? '-' s
  let (month, s) ← Decimal.exactly 2 s
  let s ← after? '-' s
  let (day, s) ← Decimal.exactly 2 s
  let s ← after? 'T' s <|> after? 't' s <|> after? ' ' s
  let (hour, s) ← Decimal.exactly 2 s
  let s ← after? ':' s
  let (minute, s) ← Decimal.exactly 2 s
  let s ← after? ':' s
  let (second, s) ← Decimal.exactly 2 s
  let s ← fraction s
  let (east, s) ← offset s
  guard s.isEmpty
  let reading ← Fields.reading? ⟨⟨year, month, day⟩, hour, minute, second⟩
  return ⟨reading.seconds - east, reading.leap⟩

/-- A number of at most two digits after any white space. -/
def short (s : List Char) : Option (Nat × List Char) :=
  Decimal.upTo 2 (trimStart s)

/-- A year after any white space: at most four digits, or a sign and any number of digits. -/
def year (s : List Char) : Option (Int × List Char) :=
  match trimStart s with
  | '-' :: s => (Decimal.run s).map fun (y, s) => (-(y : Int), s)
  | '+' :: s => (Decimal.run s).map fun (y, s) => ((y : Int), s)
  | s => (Decimal.upTo 4 s).map fun (y, s) => ((y : Int), s)

def date (s : List Char) : Option (Date × List Char) := do
  let (y, s) ← year s
  let s ← after? '-' s
  let (month, s) ← short s
  let s ← after? '-' s
  let (day, s) ← short s
  return (⟨y, month, day⟩, s)

def dateMinute (s : List Char) : Option ((Date × Nat × Nat) × List Char) := do
  let (d, s) ← date s
  let s ← after? 'T' s
  let (hour, s) ← short s
  let s ← after? ':' s
  let (minute, s) ← short s
  return ((d, hour, minute), s)

def toSecond (s : List Char) : Option Reading := do
  let ((d, hour, minute), s) ← dateMinute s
  let s ← after? ':' s
  let (second, s) ← short s
  let s ← fraction s
  guard s.isEmpty
  Fields.reading? ⟨d, hour, minute, second⟩

def toMinute (s : List Char) : Option Reading := do
  let ((d, hour, minute), s) ← dateMinute s
  guard s.isEmpty
  Fields.reading? ⟨d, hour, minute, 0⟩

def plainDate (s : List Char) : Option Reading := do
  let (d, s) ← date s
  guard s.isEmpty
  Fields.reading? ⟨d, 0, 0, 0⟩

/-- The moment that a text denotes. Without an offset the text is a reading of the clock in `zone`;
a plain date is midnight of universal time. -/
def read? (zone : Zone) (s : List Char) : Option Moment :=
  match withOffset s with
  | some m => some m
  | none =>
    match toSecond s <|> toMinute s with
    | some r => zone.moment? r
    | none => (plainDate s).map fun r => ⟨r.seconds, r.leap⟩

end OrderLookup.Calendar.Timestamp
