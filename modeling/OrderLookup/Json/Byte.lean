/-!
# Bytes of a document

Every character with a meaning in the grammar is ASCII and so one byte.
-/

namespace OrderLookup.Json

def ascii (c : Char) : UInt8 :=
  c.toNat.toUInt8

def asciiBytes (s : String) : List UInt8 :=
  s.toList.map ascii

def isBlank (b : UInt8) : Bool :=
  b = 0x20 || b = 0x09 || b = 0x0A || b = 0x0D

def isDigit (b : UInt8) : Bool :=
  0x30 ≤ b && b ≤ 0x39

def digitValue (b : UInt8) : Nat :=
  b.toNat - 0x30

def hexValue? (b : UInt8) : Option Nat :=
  if isDigit b then some (digitValue b)
  else if 0x41 ≤ b && b ≤ 0x46 then some (b.toNat - 0x41 + 10)
  else if 0x61 ≤ b && b ≤ 0x66 then some (b.toNat - 0x61 + 10)
  else none

def skipBlanks (s : List UInt8) : List UInt8 :=
  s.dropWhile isBlank

end OrderLookup.Json
