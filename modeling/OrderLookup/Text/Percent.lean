import OrderLookup.Text.Utf8

/-!
# Percent encoding

A byte is written as `%` and two hexadecimal digits. `encode` writes the ASCII characters that are
not reserved as they are and everything else byte by byte; `decode` leaves a `%` that no two
hexadecimal digits follow as it is.
-/

namespace OrderLookup.Text.Percent

def upperHexDigit (n : Nat) : Char :=
  if n < 10 then Char.ofNat ('0'.toNat + n) else Char.ofNat ('A'.toNat + (n - 10))

def hexValue? (c : Char) : Option Nat :=
  if '0' ≤ c && c ≤ '9' then some (c.toNat - '0'.toNat)
  else if 'a' ≤ c && c ≤ 'f' then some (c.toNat - 'a'.toNat + 10)
  else if 'A' ≤ c && c ≤ 'F' then some (c.toNat - 'A'.toNat + 10)
  else none

def encodeByte (b : UInt8) : List Char :=
  ['%', upperHexDigit (b.toNat / 16), upperHexDigit (b.toNat % 16)]

def isAscii (c : Char) : Bool :=
  c.toNat < 0x80

def encodeChar (reserved : Char → Bool) (c : Char) : List Char :=
  if isAscii c && !reserved c then [c] else (Utf8.encodeChar c).flatMap encodeByte

def encode (reserved : Char → Bool) (s : List Char) : List Char :=
  s.flatMap (encodeChar reserved)

def byte? (high low : Char) : Option UInt8 := do
  let h ← hexValue? high
  let l ← hexValue? low
  return (h * 16 + l).toUInt8

def decode : List Char → List UInt8
  | '%' :: high :: low :: rest =>
    match byte? high low with
    | some b => b :: decode rest
    | none => Utf8.encodeChar '%' ++ decode (high :: low :: rest)
  | c :: rest => Utf8.encodeChar c ++ decode rest
  | [] => []

end OrderLookup.Text.Percent
