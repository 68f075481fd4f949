import OrderLookup.Calendar.Moment

/-!
# Zones

A zone relates moments to clock readings by an offset east of Greenwich. A seasonal zone has two
offsets and changes between them twice a year. From a moment to a reading there is always one
offset; a reading may be skipped by the change that puts the clock forward, and then has no moment.
-/

namespace OrderLookup.Calendar

/-- A day that comes once a year. -/
inductive YearDay where
  /-- The `week`-th `weekday` of a month, the last one if there are fewer. -/
  | onWeekday (month week weekday : Nat)
  /-- The day with a number, counted from 1 and without February 29. -/
  | numbered (number : Nat)
  /-- The day after so many others, with February 29 in leap years. -/
  | after (days : Nat)
  deriving DecidableEq

namespace YearDay

/-- The day after so many others of a year with months of these lengths, of which the last has no
end. -/
def inMonths (lengths : List Nat) (year : Int) (days : Nat) : Date :=
  let (month, day) := Date.monthDay 1 days (lengths.take 11)
  ⟨year, month, day⟩

def date (year : Int) : YearDay → Date
  | .onWeekday month week weekday =>
    let first := Calendar.weekday (Date.mk year month 1).dayNumber
    let day := 1 + ((weekday : Int) - first) % 7 + ((week : Int) - 1) * 7
    ⟨year, month, (if day > daysInMonth year month then day - 7 else day).toNat⟩
  | .numbered number => inMonths (monthLengths 1970) year (number - 1)
  | .after days => inMonths (monthLengths year) year days

end YearDay

structure YearlyTime where
  day : YearDay
  time : Int
  deriving DecidableEq

namespace YearlyTime

def date (y : YearlyTime) (year : Int) : Date :=
  y.day.date year

/-- The clock reading in a given year, in seconds. -/
def seconds (y : YearlyTime) (year : Int) : Int :=
  (y.date year).dayNumber * 86400 + y.time

end YearlyTime

/-- A zone with a standard and a summer offset. Each change is given by the reading of the clock
before it. -/
structure Seasons where
  standard : Int
  summer : Int
  summerStart : YearlyTime
  summerEnd : YearlyTime
  deriving DecidableEq

namespace Seasons

def startMoment (z : Seasons) (year : Int) : Int :=
  z.summerStart.seconds year - z.standard

def endMoment (z : Seasons) (year : Int) : Int :=
  z.summerEnd.seconds year - z.summer

/-- Summer time of some year includes the moment `t`, when it lies within one calendar year. -/
def inSummerOf (z : Seasons) (t : Int) (year : Int) : Bool :=
  z.startMoment year ≤ t && t < z.endMoment year

/-- Standard time between the summers of two years includes the moment `t`, when summer time spans
the turn of the year. -/
def inWinterOf (z : Seasons) (t : Int) (year : Int) : Bool :=
  z.endMoment year ≤ t && t < z.startMoment year

/-- Summer time is in effect at the moment `t`. Changes of the year before and the year after are
looked at too, since a change may fall on the other side of the turn of the year. -/
def isSummer (z : Seasons) (t : Int) : Bool :=
  let year := (Date.ofDayNumber (t / 86400)).year
  let near := [year - 1, year, year + 1]
  if z.startMoment year ≤ z.endMoment year then near.any (z.inSummerOf t)
  else !near.any (z.inWinterOf t)

def offsetAt (z : Seasons) (t : Int) : Int :=
  if z.isSummer t then z.summer else z.standard

def startsInEarlierMonth (z : Seasons) (year : Int) : Bool :=
  (z.summerStart.date year).month < (z.summerEnd.date year).month

/-- The offset under which the clock shows the reading `t`, `none` for a skipped one. A reading that
is shown twice counts as standard time if summer time is ahead of it, and as summer time if it is
behind. The bounds of a change belong to the side that the conditions name: where the earlier
change of the year skips readings, its first one still counts as shown. Which change is the earlier
one is told by the months alone: two in one month are taken to end summer time and start it again,
whatever their days. -/
def offsetFor? (z : Seasons) (t : Int) : Option Int :=
  let year := (Date.ofDayNumber (t / 86400)).year
  let shift := z.summer - z.standard
  let start := z.summerStart.seconds year
  let started := start + shift
  let finish := z.summerEnd.seconds year
  let finished := finish - shift
  if shift = 0 then some z.standard
  else if 0 < shift then
    if z.startsInEarlierMonth year then
      if t ≤ start then some z.standard
      else if t < started then none
      else if t < finished then some z.summer
      else some z.standard
    else if t < finished then some z.summer
    else if t ≤ finish ∨ t < start then some z.standard
    else if t < started then none
    else some z.summer
  else if z.startsInEarlierMonth year then
    if t < started then some z.standard
    else if t < finish then some z.summer
    else if t < finished then none
    else some z.standard
  else if t ≤ finish then some z.summer
  else if t < finished then none
  else if t < started then some z.standard
  else some z.summer

end Seasons

inductive Zone where
  | fixed (offset : Int)
  | seasonal (seasons : Seasons)
  deriving DecidableEq

namespace Zone

def utc : Zone := .fixed 0

def offsetAt : Zone → Int → Int
  | .fixed offset, _ => offset
  | .seasonal z, t => z.offsetAt t

/-- The offset under which a reading is shown. -/
def offsetFor? : Zone → Int → Option Int
  | .fixed offset, _ => some offset
  | .seasonal z, t => z.offsetFor? t

def reading (zone : Zone) (m : Moment) : Reading :=
  ⟨m.seconds + zone.offsetAt m.seconds, m.leap⟩

/-- The moment at which the clock shows a reading, if there is one in the covered years. -/
def moment? (zone : Zone) (r : Reading) : Option Moment := do
  let offset ← zone.offsetFor? r.seconds
  let m : Moment := ⟨r.seconds - offset, r.leap⟩
  if m.InRange then some m else none

end Zone

end OrderLookup.Calendar
