/-!
# Decimal numerals

Writing numbers in base ten and reading runs of ASCII digits.
-/

namespace OrderLookup.Text.Decimal

def isDigit (c : Char) : Bool :=
  '0' ≤ c && c ≤ '9'

def digitChar (n : Nat) : Char :=
  Char.ofNat ('0'.toNat + n % 10)

def digitValue (c : Char) : Nat :=
  c.toNat - '0'.toNat

def ofNat (n : Nat) : List Char :=
  if n < 10 then [digitChar n] else ofNat (n / 10) ++ [digitChar n]

def ofInt (z : Int) : List Char :=
  if z < 0 then '-' :: ofNat z.natAbs else ofNat z.natAbs

/-- The numeral of `n`, filled up with zeros to at least `width` digits. -/
def padded (width n : Nat) : List Char :=
  let digits := ofNat n
  List.replicate (width - digits.length) '0' ++ digits

def value (digits : List Char) : Nat :=
  digits.foldl (fun n c => n * 10 + digitValue c) 0

def exactly (count : Nat) (s : List Char) : Option (Nat × List Char) :=
  let digits := s.take count
  if digits.length = count ∧ digits.all isDigit then some (value digits, s.drop count) else none

/-- Reads as many digits as there are, at least one and at most `limit`. -/
def upTo (limit : Nat) (s : List Char) : Option (Nat × List Char) :=
  let digits := (s.take limit).takeWhile isDigit
  if digits.isEmpty then none else some (value digits, s.drop digits.length)

def run (s : List Char) : Option (Nat × List Char) :=
  let digits := s.takeWhile isDigit
  if digits.isEmpty then none else some (value digits, s.dropWhile isDigit)

end OrderLookup.Text.Decimal

namespace OrderLookup

def natText (n : Nat) : String :=
  String.ofList (Text.Decimal.ofNat n)

def intText (z : Int) : String :=
  String.ofList (Text.Decimal.ofInt z)

end OrderLookup
