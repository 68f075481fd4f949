import OrderLookup.Json.Scan

/-!
# The grammar of documents

`Spells` relates values and lists of members to the texts that they are written with, in every
choice of white space, escapes and letter case that the grammar leaves.
-/

namespace OrderLookup.Json

/-! ### String literals -/

def shortEscapes : List (Char × Char) :=
  [('"', '"'), ('\\', '\\'), ('/', '/'), ('b', '\x08'), ('f', '\x0C'), ('n', '\n'), ('r', '\r'),
    ('t', '\t')]

/-- What a string literal is made of: a character as it is, an escape by a letter, or the escape of
a UTF-16 unit by four hexadecimal digits. -/
inductive Piece where
  | plain (c : Char)
  | short (letter meaning : Char)
  | unit (a b c d : UInt8)

namespace Piece

def Valid : Piece → Prop
  | plain c => 0x20 ≤ c.toNat ∧ c ≠ '"' ∧ c ≠ '\\'
  | short letter meaning => (letter, meaning) ∈ shortEscapes
  | unit a b c d => ∀ digit ∈ [a, b, c, d], (hexValue? digit).isSome = true

instance (piece : Piece) : Decidable piece.Valid :=
  match piece with
  | plain c => inferInstanceAs (Decidable (0x20 ≤ c.toNat ∧ c ≠ '"' ∧ c ≠ '\\'))
  | short letter meaning => inferInstanceAs (Decidable ((letter, meaning) ∈ shortEscapes))
  | unit a b c d =>
    List.decidableBAll (fun digit => (hexValue? digit).isSome = true) [a, b, c, d]

def bytes : Piece → List UInt8
  | plain c => Text.Utf8.encodeChar c
  | short letter _ => [ascii '\\', ascii letter]
  | unit a b c d => [ascii '\\', ascii 'u', a, b, c, d]

def unitValue (a b c d : UInt8) : Nat :=
  let digit (b : UInt8) := (hexValue? b).getD 0
  ((digit a * 16 + digit b) * 16 + digit c) * 16 + digit d

def paired (high low : Nat) : Char :=
  Char.ofNat (0x10000 + (high - 0xD800) * 0x400 + (low - 0xDC00))

/-- The characters that pieces stand for. There are none for a surrogate out of a pair. -/
def chars? : List Piece → Option (List Char)
  | [] => some []
  | plain c :: later => (chars? later).map (c :: ·)
  | short _ meaning :: later => (chars? later).map (meaning :: ·)
  | unit a b c d :: later =>
    let n := unitValue a b c d
    if 0xD800 ≤ n ∧ n ≤ 0xDBFF then
      match later with
      | unit a b c d :: later =>
        let low := unitValue a b c d
        if 0xDC00 ≤ low ∧ low ≤ 0xDFFF then (chars? later).map (paired n low :: ·) else none
      | _ => none
    else if 0xDC00 ≤ n ∧ n ≤ 0xDFFF then none
    else (chars? later).map (Char.ofNat n :: ·)

end Piece

/-- A string literal with the text that it stands for, if it stands for one. -/
inductive Quoted : Option String → List UInt8 → Prop
  | intro {pieces : List Piece} (valid : ∀ piece ∈ pieces, piece.Valid) :
    Quoted ((Piece.chars? pieces).map String.ofList)
      (ascii '"' :: (pieces.flatMap Piece.bytes ++ [ascii '"']))

/-! ### Numerals -/

def Digits (s : List UInt8) : Prop :=
  s ≠ [] ∧ ∀ b ∈ s, isDigit b = true

/-- The digits before the point start with zero only if there is no other. -/
def Literal.Valid (l : Literal) : Prop :=
  Digits l.whole ∧ (l.whole.head? = some (ascii '0') → l.whole = [ascii '0']) ∧
    (∀ b ∈ l.fraction, isDigit b = true) ∧ ∀ minus digits, l.exponent = some (minus, digits) →
      Digits digits

inductive Power : Option (Bool × List UInt8) → List UInt8 → Prop
  | none : Power none []
  | plain {mark : Char} (h : mark = 'e' ∨ mark = 'E') (digits : List UInt8) :
    Power (some (false, digits)) (ascii mark :: digits)
  | plus {mark : Char} (h : mark = 'e' ∨ mark = 'E') (digits : List UInt8) :
    Power (some (false, digits)) (ascii mark :: ascii '+' :: digits)
  | minus {mark : Char} (h : mark = 'e' ∨ mark = 'E') (digits : List UInt8) :
    Power (some (true, digits)) (ascii mark :: ascii '-' :: digits)

def pointed (fraction : List UInt8) : List UInt8 :=
  if fraction = [] then [] else ascii '.' :: fraction

/-! ### Values -/

inductive Value where
  | null
  | boolean (value : Bool)
  | number (minus : Bool) (literal : Literal)
  /-- A string literal, without a text if a surrogate in it has no partner. -/
  | string (text : Option String)
  | array (elements : List Value)
  | object (members : List (Option String × Value))

abbrev Members := List (Option String × Value)

def Blank (s : List UInt8) : Prop :=
  ∀ b ∈ s, isBlank b = true

instance (s : List UInt8) : Decidable (Blank s) :=
  List.decidableBAll (fun b => isBlank b = true) s

inductive Part where
  | value (v : Value)
  /-- A value with the white space around it. -/
  | padded (v : Value)
  | elements (vs : List Value)
  | member (key : Option String) (v : Value)
  | members (ms : Members)

/-- The texts that a part may be written with. -/
inductive Spells : Part → List UInt8 → Prop
  | null : Spells (.value .null) (asciiBytes "null")
  | true : Spells (.value (.boolean true)) (asciiBytes "true")
  | false : Spells (.value (.boolean false)) (asciiBytes "false")
  | number (minus : Bool) {l : Literal} (valid : l.Valid) {power : List UInt8}
    (h : Power l.exponent power) :
    Spells (.value (.number minus l))
      ((if minus then [ascii '-'] else []) ++ (l.whole ++ (pointed l.fraction ++ power)))
  | string {text : Option String} {s : List UInt8} (h : Quoted text s) :
    Spells (.value (.string text)) s
  | array {vs : List Value} {s : List UInt8} (h : Spells (.elements vs) s) :
    Spells (.value (.array vs)) (ascii '[' :: (s ++ [ascii ']']))
  | object {ms : Members} {s : List UInt8} (h : Spells (.members ms) s) :
    Spells (.value (.object ms)) (ascii '{' :: (s ++ [ascii '}']))
  | padded {v : Value} {before s after : List UInt8} (front : Blank before)
    (h : Spells (.value v) s) (back : Blank after) :
    Spells (.padded v) (before ++ (s ++ after))
  | noElement {gap : List UInt8} (h : Blank gap) : Spells (.elements []) gap
  | element {v : Value} {s : List UInt8} (h : Spells (.padded v) s) : Spells (.elements [v]) s
  | moreElements {v w : Value} {vs : List Value} {s t : List UInt8} (h : Spells (.padded v) s)
    (later : Spells (.elements (w :: vs)) t) :
    Spells (.elements (v :: w :: vs)) (s ++ ascii ',' :: t)
  | keyed {key : Option String} {v : Value} {before literal after s : List UInt8}
    (front : Blank before) (quoted : Quoted key literal) (back : Blank after)
    (h : Spells (.padded v) s) :
    Spells (.member key v) (before ++ (literal ++ (after ++ ascii ':' :: s)))
  | noMember {gap : List UInt8} (h : Blank gap) : Spells (.members []) gap
  | member {key : Option String} {v : Value} {s : List UInt8} (h : Spells (.member key v) s) :
    Spells (.members [(key, v)]) s
  | moreMembers {key : Option String} {v : Value} {next : Option String × Value} {ms : Members}
    {s t : List UInt8} (h : Spells (.member key v) s)
    (later : Spells (.members (next :: ms)) t) :
    Spells (.members ((key, v) :: next :: ms)) (s ++ ascii ',' :: t)

end OrderLookup.Json
