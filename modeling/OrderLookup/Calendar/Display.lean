import OrderLookup.Calendar.Timestamp

/-!
# Displayed dates

Dates are shown as `DD.MM.YYYY, HH:MM:SS` of the clock in the display zone. A year outside 0..9999
is shown with its sign.
-/

namespace OrderLookup.Calendar

open OrderLookup.Text

def invalidDate : String := "Invalid Date"

def yearText (year : Int) : List Char :=
  if 0 ≤ year ∧ year ≤ 9999 then Decimal.padded 4 year.toNat
  else (if year < 0 then '-' else '+') :: Decimal.padded 4 year.natAbs

def Date.display (d : Date) : List Char :=
  Decimal.padded 2 d.day ++ '.' :: Decimal.padded 2 d.month ++ '.' :: yearText d.year

def Reading.display (r : Reading) : List Char :=
  r.date.display ++ ',' :: ' ' :: Decimal.padded 2 r.hour ++ ':' :: Decimal.padded 2 r.minute ++
    ':' :: Decimal.padded 2 r.second

def Moment.display (zone : Zone) (m : Moment) : String :=
  String.ofList (zone.reading m).display

/-- A timestamp as shown in `zone`; an empty text stays empty. -/
def formatDate (zone : Zone) (text : String) : String :=
  if text.isEmpty then ""
  else
    match Timestamp.read? zone text.toList with
    | some m => m.display zone
    | none => invalidDate

/-- Seconds since 1970 as shown in `zone`; zero and nothing are shown as nothing. -/
def formatEpoch (zone : Zone) (seconds : Option Int) : String :=
  match seconds with
  | none => ""
  | some s =>
    if s = 0 then ""
    else if (Moment.mk s false).InRange then (Moment.mk s false).display zone
    else invalidDate

end OrderLookup.Calendar
