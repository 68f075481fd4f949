/-!
# Ranges of characters

A class of characters is given by the ranges of its code points, in ascending order.
-/

namespace OrderLookup.Text

/-- The first and the last code point of each range. -/
abbrev Ranges := List (Nat × Nat)

/-- The character is in one of the ranges, which can only be the first one that does not end before
it. -/
def Ranges.includes (ranges : Ranges) (c : Char) : Bool :=
  match ranges.find? (c.toNat ≤ ·.2) with
  | some (first, _) => first ≤ c.toNat
  | none => false

end OrderLookup.Text
