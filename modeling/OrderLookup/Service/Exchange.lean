import OrderLookup.Order.Fetch
import OrderLookup.Order.Wire
import OrderLookup.Service.Health
import OrderLookup.Url.Basic

/-!
# Exchanges with the service

A request for a URL brings a complete response, or one that breaks off within its body, or none.
This module reads orders and health reports from what came of a request.
-/

namespace OrderLookup.Service

structure Response where
  status : Nat
  headers : List (String × List UInt8)
  body : List UInt8
  deriving DecidableEq

/-- What came of one request. -/
inductive Exchange where
  /-- There was no response. -/
  | failed (detail : String)
  /-- There was the head of one and some of its body. -/
  | brokenOff (response : Response) (detail : String)
  /-- There was a complete one, and its head came after so many nanoseconds. -/
  | answered (response : Response) (elapsed : Nat)
  deriving DecidableEq

def Response.isSuccess (r : Response) : Bool :=
  200 ≤ r.status && r.status ≤ 299

def timeHeader : String := "x-execution-time-ms"

/-- The value of the first header of a name, in any letter case. -/
def Response.header? (r : Response) (name : String) : Option (List UInt8) :=
  (r.headers.find? fun h => h.1.toList.map Char.toLower == name.toList).map (·.2)

def isReadable (b : UInt8) : Bool :=
  (0x20 ≤ b && b ≤ 0x7E) || b = 0x09

def maxMilliseconds : Nat := 0xFFFFFFFFFFFFFFFF

/-- Reads a number of milliseconds: digits, with or without a plus sign. -/
def readMilliseconds? (s : List Char) : Option Nat :=
  let digits :=
    match s with
    | '+' :: rest => rest
    | _ => s
  if digits.isEmpty || !digits.all Text.Decimal.isDigit then none
  else
    let n := Text.Decimal.value digits
    if n ≤ maxMilliseconds then some n else none

def Response.serverTime? (r : Response) : Option Nat := do
  let value ← r.header? timeHeader
  if value.all isReadable then
    readMilliseconds? (Text.trim (value.map fun b => Char.ofNat b.toNat))
  else none

def roundedMilliseconds (nanoseconds : Nat) : Nat :=
  min ((nanoseconds + 500000) / 1000000) maxMilliseconds

/-- What a response says to a reader of its body. -/
def readBody {α : Type} (decode : List UInt8 → Except Json.Failure α) (r : Response) :
    Except FetchError α :=
  if r.isSuccess then
    match decode r.body with
    | .ok a => .ok a
    | .error failure => .error (.malformed failure.message)
  else .error (.reported (complaintMessage r.body))

namespace Exchange

def order : Exchange → FetchOutcome
  | .failed detail => .error (.unreachable detail)
  | .brokenOff _ detail => .error (.unreachable detail)
  | .answered r elapsed => do
    let order ← readBody Order.decode r
    match r.serverTime? with
    | some ms => return ⟨order, ms, .server⟩
    | none => return ⟨order, roundedMilliseconds elapsed, .client⟩

def health : Exchange → Except FetchError Health
  | .failed detail => .error (.unreachable detail)
  | .brokenOff _ detail => .error (.unreachable detail)
  | .answered r _ => readBody Health.decode r

end Exchange

end OrderLookup.Service
