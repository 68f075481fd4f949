import OrderLookup.Json.Failure
import OrderLookup.Text.Utf8

/-!
# Tokens

Reading the words, numerals and string literals of a document. Each reader takes the bytes from the
token on and gives back what follows it.
-/

namespace OrderLookup.Json

open OrderLookup.Text

/-- A reader gives a value and the bytes after it. -/
abbrev Reader (α : Type) := List UInt8 → Except Failure (α × List UInt8)

def word : List UInt8 → List UInt8 → Except Failure (List UInt8)
  | [], s => .ok s
  | _ :: _, [] => .error .cutShort
  | w :: ws, b :: s => if b = w then word ws s else .error .illFormed

namespace Literal

def digits : Reader (List UInt8) := fun s =>
  let found := s.takeWhile isDigit
  let rest := s.dropWhile isDigit
  if found.isEmpty then .error (if rest.isEmpty then .cutShort else .illFormed)
  else .ok (found, rest)

def readExponent : Reader (Bool × List UInt8) := fun s =>
  match s with
  | [] => .error .cutShort
  | b :: rest =>
    if b = ascii '+' ∨ b = ascii '-' then do
      let (found, rest) ← digits rest
      return ((b = ascii '-', found), rest)
    else do
      let (found, rest) ← digits s
      return ((false, found), rest)

def readPower : Reader (Option (Bool × List UInt8)) := fun s =>
  match s with
  | b :: rest =>
    if b = ascii 'e' ∨ b = ascii 'E' then do
      let (power, rest) ← readExponent rest
      return (some power, rest)
    else .ok (none, s)
  | [] => .ok (none, s)

/-- A numeral after its sign. No digit may follow a leading zero. -/
def read : Reader Literal := fun s => do
  let (whole, rest) ← digits s
  if whole.head? = some (ascii '0') ∧ whole.length ≠ 1 then throw .illFormed
  match rest with
  | b :: after =>
    if b = ascii '.' then
      let (fraction, rest) ← digits after
      let (exponent, rest) ← readPower rest
      return (⟨whole, fraction, exponent⟩, rest)
    else
      let (exponent, rest) ← readPower rest
      return (⟨whole, [], exponent⟩, rest)
  | [] => return (⟨whole, [], none⟩, rest)

end Literal

def readNumeral (minus : Bool) : Reader Numeral := fun s => do
  let (literal, rest) ← Literal.read s
  match literal.numeral? minus with
  | some n => return (n, rest)
  | none => throw .illFormed

/-- Where in a string literal a byte stands: in the text, after a backslash, among the four
hexadecimal digits of a UTF-16 unit, or where the second half of a surrogate pair has to follow. -/
inductive Quote where
  | plain
  | escape
  | unit (high : Option Nat) (count : Nat) (value : Option Nat)
  | pairEscape (high : Nat)
  | pairUnit (high : Nat)
  deriving DecidableEq

inductive QuoteStep where
  | close
  | go (out : List UInt8) (next : Quote)
  | fail
  deriving DecidableEq

namespace Quote

def shortEscape? (b : UInt8) : Option UInt8 :=
  if b = ascii '"' ∨ b = ascii '\\' ∨ b = ascii '/' then some b
  else if b = ascii 'b' then some 0x08
  else if b = ascii 'f' then some 0x0C
  else if b = ascii 'n' then some 0x0A
  else if b = ascii 'r' then some 0x0D
  else if b = ascii 't' then some 0x09
  else none

def isLow (n : Nat) : Bool :=
  0xDC00 ≤ n && n ≤ 0xDFFF

def isHigh (n : Nat) : Bool :=
  0xD800 ≤ n && n ≤ 0xDBFF

/-- A complete UTF-16 unit. Surrogates have to come in pairs. -/
def ofUnit (high : Option Nat) (n : Nat) : QuoteStep :=
  match high with
  | none =>
    if isLow n then .fail
    else if isHigh n then .go [] (.pairEscape n)
    else .go (Utf8.encodeChar (Char.ofNat n)) .plain
  | some h =>
    if isLow n then
      .go (Utf8.encodeChar (Char.ofNat ((h - 0xD800) * 0x400 + (n - 0xDC00) + 0x10000))) .plain
    else .fail

/-- The value of hexadecimal digits with one more, `none` once one of them is not hexadecimal. -/
def addHex (value : Option Nat) (b : UInt8) : Option Nat := do
  let n ← value
  let d ← hexValue? b
  return n * 16 + d

def step (mode : Quote) (b : UInt8) : QuoteStep :=
  match mode with
  | .plain =>
    if b = ascii '"' then .close
    else if b = ascii '\\' then .go [] .escape
    else if b < 0x20 then .fail
    else .go [b] .plain
  | .escape =>
    match shortEscape? b with
    | some c => .go [c] .plain
    | none => if b = ascii 'u' then .go [] (.unit none 0 (some 0)) else .fail
  | .unit high count value =>
    if count < 3 then .go [] (.unit high (count + 1) (addHex value b))
    else
      match addHex value b with
      | some n => ofUnit high n
      | none => .fail
  | .pairEscape high => if b = ascii '\\' then .go [] (.pairUnit high) else .fail
  | .pairUnit high => if b = ascii 'u' then .go [] (.unit (some high) 0 (some 0)) else .fail

def bytes (mode : Quote) : Reader (List UInt8)
  | [] => .error .cutShort
  | b :: rest =>
    match step mode b with
    | .close => .ok ([], rest)
    | .fail => .error .illFormed
    | .go out next =>
      match bytes next rest with
      | .ok (text, rest) => .ok (out ++ text, rest)
      | .error e => .error e

end Quote

/-- A string literal after its opening quote. It is read to the end before its bytes are checked to
be UTF-8. -/
def readQuoted : Reader String := fun s => do
  let (bytes, rest) ← Quote.bytes .plain s
  match Utf8.decode? bytes with
  | some text => return (String.ofList text, rest)
  | none => throw .illFormed

def escapeChar (c : Char) : List UInt8 :=
  if c = '"' then asciiBytes "\\\""
  else if c = '\\' then asciiBytes "\\\\"
  else if c.toNat = 0x08 then asciiBytes "\\b"
  else if c.toNat = 0x0C then asciiBytes "\\f"
  else if c = '\n' then asciiBytes "\\n"
  else if c = '\r' then asciiBytes "\\r"
  else if c = '\t' then asciiBytes "\\t"
  else if c.toNat < 0x20 then
    asciiBytes "\\u00" ++
      [ascii (Quoted.lowerHexDigit (c.toNat / 16)), ascii (Quoted.lowerHexDigit (c.toNat % 16))]
  else Utf8.encodeChar c

def quote (s : String) : List UInt8 :=
  ascii '"' :: s.toList.flatMap escapeChar ++ [ascii '"']

end OrderLookup.Json
