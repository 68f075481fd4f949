import OrderLookup.Text.Unprintable

/-!
# Quoted texts

A text inside a message stands between quotation marks, with what would not show up by itself
escaped.
-/

namespace OrderLookup.Text.Quoted

def lowerHexDigit (n : Nat) : Char :=
  if n < 10 then Char.ofNat ('0'.toNat + n) else Char.ofNat ('a'.toNat + (n - 10))

def hexadecimal (n : Nat) : List Char :=
  if n < 16 then [lowerHexDigit n] else hexadecimal (n / 16) ++ [lowerHexDigit (n % 16)]

/-- The written form of a character; what would not show up is written by number. -/
def escape (c : Char) : List Char :=
  if c = '"' then ['\\', '"']
  else if c = '\\' then ['\\', '\\']
  else if c = '\n' then ['\\', 'n']
  else if c = '\r' then ['\\', 'r']
  else if c = '\t' then ['\\', 't']
  else if c.toNat = 0 then ['\\', '0']
  else if isUnprintable c then '\\' :: 'u' :: '{' :: hexadecimal c.toNat ++ ['}']
  else [c]

def write (s : String) : String :=
  String.ofList ('"' :: s.toList.flatMap escape ++ ['"'])

end OrderLookup.Text.Quoted
