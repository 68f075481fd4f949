import OrderLookup.Json.Binary64
import OrderLookup.Json.Byte

/-!
# Numerals

An integer literal is kept exactly while it fits into 64 bits, without a sign or with one. Every
other numeral is a binary64 number, computed from the digits that fit into 64 bits and one scaling
by a power of ten.
-/

namespace OrderLookup.Json

inductive Numeral where
  /-- A literal without a sign, below `2 ^ 64`. -/
  | whole (n : Nat)
  /-- Minus `n`, with `n` from 1 to `2 ^ 63`. -/
  | negative (n : Nat)
  | real (bits : UInt64)
  deriving DecidableEq

/-- The parts of a numeral after its sign. -/
structure Literal where
  whole : List UInt8
  fraction : List UInt8
  /-- A minus sign, if there is one, and the digits of the exponent. -/
  exponent : Option (Bool × List UInt8)
  deriving DecidableEq

namespace Literal

def natOf (digits : List UInt8) : Nat :=
  digits.foldl (fun n b => n * 10 + digitValue b) 0

/-- Takes up digits while the number stays below `2 ^ 64`: the number, and the digits left over. -/
def gather (n : Nat) : List UInt8 → Nat × List UInt8
  | [] => (n, [])
  | b :: rest =>
    let next := n * 10 + digitValue b
    if next < 0x10000000000000000 then gather next rest else (n, b :: rest)

def power (l : Literal) : Int :=
  match l.exponent with
  | none => 0
  | some (minus, digits) => if minus then -(natOf digits : Int) else natOf digits

def tenTo (n : Nat) : Float :=
  Float.ofScientific 1 false n

/-- `f / 10 ^ n`, in steps that binary64 can hold. -/
def scaleDown : Nat → Float → Nat → Float
  | 0, f, _ => f
  | steps + 1, f, n =>
    if n ≤ 308 then f / tenTo n
    else if f == 0 then f
    else scaleDown steps (f / tenTo 308) (n - 308)

/-- The binary64 number of a literal without its sign, `none` if it is too large. -/
def magnitude? (l : Literal) : Option Float :=
  let (n, excess) := gather 0 l.whole
  let (n, unused) := gather n l.fraction
  let exponent := (excess.length : Int) - (l.fraction.length - unused.length : Nat) + l.power
  let f := n.toUInt64.toFloat
  if exponent < 0 then some (scaleDown 4 f exponent.natAbs)
  else if 308 < exponent then if n = 0 then some f else none
  else
    let scaled := f * tenTo exponent.natAbs
    if scaled.isInf then none else some scaled

def numeral? (minus : Bool) (l : Literal) : Option Numeral :=
  let n := natOf l.whole
  let integer := l.fraction.isEmpty && l.exponent.isNone
  if integer && !minus && n < 0x10000000000000000 then some (.whole n)
  else if integer && minus && 0 < n && n ≤ 0x8000000000000000 then some (.negative n)
  else l.magnitude?.map fun f => .real (if minus then -f else f).toBits

end Literal

end OrderLookup.Json
