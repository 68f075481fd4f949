import OrderLookup.Json.Skip

/-!
# Codecs

A codec reads and writes the values of one type: texts, 64-bit integers, values that may be null,
and arrays. Records are in `OrderLookup.Json.Shape`.
-/

namespace OrderLookup.Json

structure Codec (α : Type) where
  read : Reader α
  write : α → List UInt8

def nextByte : Reader UInt8 := fun s =>
  match skipBlanks s with
  | [] => .error .cutShort
  | b :: rest => .ok (b, rest)

/-- Refuses the value that starts with `b`. A word, a number or a string literal is read first, and
may turn out to be ill-formed. -/
def refuse (wanted : Wanted) (b : UInt8) (rest : List UInt8) : Failure :=
  let found : Except Failure Found :=
    if b = ascii 'n' then (word (asciiBytes "ull") rest).map fun _ => .null
    else if b = ascii 't' then (word (asciiBytes "rue") rest).map fun _ => .boolean true
    else if b = ascii 'f' then (word (asciiBytes "alse") rest).map fun _ => .boolean false
    else if b = ascii '-' then (readNumeral true rest).map fun (n, _) => .number n
    else if isDigit b then (readNumeral false (b :: rest)).map fun (n, _) => .number n
    else if b = ascii '"' then (readQuoted rest).map fun (text, _) => .text text
    else if b = ascii '[' then .ok .sequence
    else if b = ascii '{' then .ok .map
    else .error .illFormed
  match found with
  | .ok found => .mismatch (.wrongType found wanted)
  | .error failure => failure

namespace Codec

def text : Codec String where
  read s := do
    let (b, rest) ← nextByte s
    if b = ascii '"' then readQuoted rest else throw (refuse .text b rest)
  write := quote

def int64? : Numeral → Except Mismatch Int64
  | .whole n => if n < 0x8000000000000000 then .ok (Int64.ofInt n) else .error (.tooLarge n)
  | .negative n => .ok (Int64.ofInt (-n))
  | .real bits => .error (.wrongType (.number (.real bits)) .integer)

def integer : Codec Int64 where
  read s := do
    let (b, rest) ← nextByte s
    let (n, rest) ←
      if b = ascii '-' then readNumeral true rest
      else if isDigit b then readNumeral false (b :: rest)
      else throw (refuse .integer b rest)
    match int64? n with
    | .ok z => return (z, rest)
    | .error cause => throw (.mismatch cause)
  write z := (Text.Decimal.ofInt z.toInt).map ascii

def nullable {α : Type} (c : Codec α) : Codec (Option α) where
  read s := do
    let (b, rest) ← nextByte s
    if b = ascii 'n' then
      let rest ← word (asciiBytes "ull") rest
      return (none, rest)
    else
      let (a, rest) ← c.read (b :: rest)
      return (some a, rest)
  write
    | none => asciiBytes "null"
    | some a => c.write a

/-- What an array has next: an element, or its end, which is left in place. -/
def nextElement (first : Bool) (s : List UInt8) : Except Failure (Option (List UInt8)) := do
  let (b, rest) ← nextByte s
  if b = ascii ']' then return none
  if first then return some (b :: rest)
  if b ≠ ascii ',' then throw .illFormed
  let (b, rest) ← nextByte rest
  if b = ascii ']' then throw .illFormed
  return some (b :: rest)

def closeArray (s : List UInt8) : Except Failure (List UInt8) := do
  let (b, rest) ← nextByte s
  if b = ascii ']' then return rest else throw .illFormed

/-- The elements of an array and its end. Each element takes at least one byte, so that `fuel` is
enough if it is no less than the length of the input. -/
def elements {α : Type} (c : Codec α) : Nat → Bool → Reader (List α)
  | 0, _, _ => .error .cutShort
  | fuel + 1, first, s => do
    match ← nextElement first s with
    | none =>
      let rest ← closeArray s
      return ([], rest)
    | some s =>
      let (a, s) ← c.read s
      let (as, s) ← elements c fuel false s
      return (a :: as, s)

def separated : List (List UInt8) → List UInt8
  | [] => []
  | [part] => part
  | part :: parts => part ++ ascii ',' :: separated parts

def list {α : Type} (c : Codec α) : Codec (List α) where
  read s := do
    let (b, rest) ← nextByte s
    if b = ascii '[' then elements c (rest.length + 1) true rest
    else throw (refuse .sequence b rest)
  write as := ascii '[' :: separated (as.map c.write) ++ [ascii ']']

/-- An array, where `null` stands for an empty one. -/
def listOrNull {α : Type} (c : Codec α) : Codec (List α) where
  read s := do
    let (as, rest) ← (nullable (list c)).read s
    return (as.getD [], rest)
  write := (list c).write

/-- Reads a whole document. Only white space may follow the value. -/
def decode {α : Type} (c : Codec α) (document : List UInt8) : Except Failure α := do
  let (a, rest) ← c.read document
  if (skipBlanks rest).isEmpty then return a else throw .illFormed

end Codec

end OrderLookup.Json
