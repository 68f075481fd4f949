import OrderLookup.Text.Decimal

/-!
# Texts of binary64 numbers

A finite binary64 number is shown by the fewest decimal digits that no other such number is nearer
to, and of those by the nearest. Exponents of the first digit from -5 to 15 are written
positionally, with at least one digit after the point.
-/

namespace OrderLookup.Json.Binary64

open OrderLookup.Text

/-- The decimal number `digits · 10 ^ unit`. -/
structure Scaled where
  digits : Nat
  unit : Int
  deriving DecidableEq

/-- The exponent of the first digit of `num / den`. -/
def leadingExponent (num den : Nat) : Int :=
  if den ≤ num then ((Decimal.ofNat (num / den)).length - 1 : Nat)
  else -((Decimal.ofNat ((den + num - 1) / num - 1)).length : Int)

/-- The multiple of `10 ^ unit` nearest to `num / den` that lies between `low / den` and
`high / den`. -/
def onGrid (closed : Bool) (low num high den : Nat) (unit : Int) : Option Scaled :=
  let up := Nat.pow 10 (-unit).toNat
  let den := den * Nat.pow 10 unit.toNat
  let num := num * up
  let fits (k : Nat) : Bool :=
    if closed then low * up ≤ k * den && k * den ≤ high * up
    else low * up < k * den && k * den < high * up
  let k := num / den
  let below := num - k * den
  let above := (k + 1) * den - num
  if fits k && (!fits (k + 1) || below < above || (below == above && k % 2 == 0)) then
    some ⟨k, unit⟩
  else if fits (k + 1) then some ⟨k + 1, unit⟩
  else none

/-- The shortest decimal for the positive number `mantissa · 2 ^ exponent`; `narrow` tells whether
the interval that rounds to it is half as wide below. The ends of the interval belong to it if the
mantissa is even. -/
def shortest (mantissa : Nat) (exponent : Int) (narrow : Bool) : Scaled :=
  let scale := Nat.pow 2 (exponent - 2).toNat
  let den := Nat.pow 2 (2 - exponent).toNat
  let num := 4 * mantissa * scale
  let low := (4 * mantissa - if narrow then 1 else 2) * scale
  let high := (4 * mantissa + 2) * scale
  let first := leadingExponent num den
  let grids := (List.range 17).map fun (n : Nat) => first - n
  match grids.findSome? (onGrid (mantissa % 2 == 0) low num high den) with
  | some found => found
  | none => ⟨0, 0⟩

def Scaled.significant (s : Scaled) : List Char × Int :=
  let digits := Decimal.ofNat s.digits
  ((digits.reverse.dropWhile (· == '0')).reverse, s.unit + (digits.length - 1 : Nat))

def layout (digits : List Char) (exponent : Int) : List Char :=
  if -5 ≤ exponent ∧ exponent ≤ 15 then
    if exponent < 0 then '0' :: '.' :: List.replicate (-exponent - 1).toNat '0' ++ digits
    else
      let whole := exponent.toNat + 1
      let fraction := digits.drop whole
      digits.take whole ++ List.replicate (whole - digits.length) '0' ++
        '.' :: if fraction.isEmpty then ['0'] else fraction
  else
    let point := if digits.length ≤ 1 then digits else digits.take 1 ++ '.' :: digits.drop 1
    point ++ 'e' :: (if exponent < 0 then '-' else '+') :: Decimal.ofNat exponent.natAbs

/-- The leading bit of a mantissa, which is left out where the exponent implies it. -/
def hiddenBit : Nat := 0x10000000000000

def signBit : Nat := 0x8000000000000000

def text (bits : UInt64) : String :=
  let n := bits.toNat
  let biased := n / hiddenBit % 2048
  let fraction := n % hiddenBit
  let mantissa := if biased = 0 then fraction else fraction + hiddenBit
  let exponent : Int := (if biased = 0 then 1 else biased : Nat) - 1075
  let magnitude :=
    if mantissa = 0 then ['0', '.', '0']
    else
      let (digits, first) := (shortest mantissa exponent (fraction == 0 && 1 < biased)).significant
      layout digits first
  String.ofList (if n < signBit then magnitude else '-' :: magnitude)

end OrderLookup.Json.Binary64
