import OrderLookup.Json.Scan

/-!
# Skipping a value

The value of an unknown member is passed over byte by byte. It has to be well formed, to any depth;
string literals are checked less closely than those that are read, for neither surrogates nor UTF-8
matter here.
-/

namespace OrderLookup.Json

inductive Enclosure where
  | array
  | object
  deriving DecidableEq

/-- What a byte of a skipped value is part of. -/
inductive Skip where
  /-- A value has to start. -/
  | value
  /-- A value has to start, or an array ends. -/
  | firstElement
  /-- A key has to start, or an object ends. -/
  | firstKey
  | key
  | colon
  /-- A value has ended: a comma or the end of what encloses it has to follow. -/
  | after
  | word (rest : List UInt8)
  | quoted (isKey : Bool)
  | escaped (isKey : Bool)
  /-- Among the four characters after a backslash and a `u`. -/
  | unit (isKey : Bool) (count : Nat) (valid : Bool)
  /-- After a minus sign. -/
  | sign
  | zero
  | whole
  /-- After a point. -/
  | point
  | fraction
  /-- After an `e`. -/
  | exponent
  /-- After the sign of an exponent. -/
  | exponentSign
  | power
  deriving DecidableEq

inductive SkipStep where
  | go (next : Skip) (stack : List Enclosure)
  | ended
  | endedBefore
  | fail
  deriving DecidableEq

namespace Skip

def close (stack : List Enclosure) : SkipStep :=
  if stack.isEmpty then .ended else .go .after stack

def start (stack : List Enclosure) (b : UInt8) : SkipStep :=
  if b = ascii 'n' then .go (.word (asciiBytes "ull")) stack
  else if b = ascii 't' then .go (.word (asciiBytes "rue")) stack
  else if b = ascii 'f' then .go (.word (asciiBytes "alse")) stack
  else if b = ascii '-' then .go .sign stack
  else if b = ascii '0' then .go .zero stack
  else if isDigit b then .go .whole stack
  else if b = ascii '"' then .go (.quoted false) stack
  else if b = ascii '[' then .go .firstElement (.array :: stack)
  else if b = ascii '{' then .go .firstKey (.object :: stack)
  else .fail

def follow (stack : List Enclosure) (b : UInt8) : SkipStep :=
  if isBlank b then .go .after stack
  else
    match stack with
    | .array :: outer =>
      if b = ascii ',' then .go .value stack else if b = ascii ']' then close outer else .fail
    | .object :: outer =>
      if b = ascii ',' then .go .key stack else if b = ascii '}' then close outer else .fail
    | [] => .fail

/-- A byte that does not continue the numeral before it. -/
def afterNumeral (stack : List Enclosure) (b : UInt8) : SkipStep :=
  if stack.isEmpty then .endedBefore else follow stack b

def closeQuote (isKey : Bool) (stack : List Enclosure) : SkipStep :=
  if isKey then .go .colon stack else close stack

def isExponentMark (b : UInt8) : Bool :=
  b = ascii 'e' || b = ascii 'E'

def step (mode : Skip) (stack : List Enclosure) (b : UInt8) : SkipStep :=
  match mode with
  | .value => if isBlank b then .go .value stack else start stack b
  | .firstElement =>
    if isBlank b then .go .firstElement stack
    else if b = ascii ']' then close stack.tail
    else start stack b
  | .firstKey =>
    if isBlank b then .go .firstKey stack
    else if b = ascii '}' then close stack.tail
    else if b = ascii '"' then .go (.quoted true) stack
    else .fail
  | .key =>
    if isBlank b then .go .key stack
    else if b = ascii '"' then .go (.quoted true) stack
    else .fail
  | .colon =>
    if isBlank b then .go .colon stack
    else if b = ascii ':' then .go .value stack
    else .fail
  | .after => follow stack b
  | .word [] => .fail
  | .word (w :: rest) =>
    if b = w then if rest.isEmpty then close stack else .go (.word rest) stack else .fail
  | .quoted isKey =>
    if b = ascii '"' then closeQuote isKey stack
    else if b = ascii '\\' then .go (.escaped isKey) stack
    else if b < 0x20 then .fail
    else .go (.quoted isKey) stack
  | .escaped isKey =>
    if b = ascii 'u' then .go (.unit isKey 0 true) stack
    else if (Quote.shortEscape? b).isSome then .go (.quoted isKey) stack
    else .fail
  | .unit isKey count valid =>
    let valid := valid && (hexValue? b).isSome
    if count < 3 then .go (.unit isKey (count + 1) valid) stack
    else if valid then .go (.quoted isKey) stack
    else .fail
  | .sign =>
    if b = ascii '0' then .go .zero stack else if isDigit b then .go .whole stack else .fail
  | .zero =>
    if isDigit b then .fail
    else if b = ascii '.' then .go .point stack
    else if isExponentMark b then .go .exponent stack
    else afterNumeral stack b
  | .whole =>
    if isDigit b then .go .whole stack
    else if b = ascii '.' then .go .point stack
    else if isExponentMark b then .go .exponent stack
    else afterNumeral stack b
  | .point => if isDigit b then .go .fraction stack else .fail
  | .fraction =>
    if isDigit b then .go .fraction stack
    else if isExponentMark b then .go .exponent stack
    else afterNumeral stack b
  | .exponent =>
    if b = ascii '+' ∨ b = ascii '-' then .go .exponentSign stack
    else if isDigit b then .go .power stack
    else .fail
  | .exponentSign => if isDigit b then .go .power stack else .fail
  | .power => if isDigit b then .go .power stack else afterNumeral stack b

/-- What the end of the document means. A numeral may end there; one that lacks a digit counts as
ill-formed, anything else that is unfinished as cut short. -/
def atEnd (mode : Skip) (stack : List Enclosure) : Except Failure (List UInt8) :=
  match mode with
  | .zero | .whole | .fraction | .power => if stack.isEmpty then .ok [] else .error .cutShort
  | .sign | .point | .exponent | .exponentSign => .error .illFormed
  | _ => .error .cutShort

def run (mode : Skip) (stack : List Enclosure) : List UInt8 → Except Failure (List UInt8)
  | [] => atEnd mode stack
  | b :: rest =>
    match step mode stack b with
    | .go next stack => run next stack rest
    | .ended => .ok rest
    | .endedBefore => .ok (b :: rest)
    | .fail => .error .illFormed

end Skip

def skipValue (s : List UInt8) : Except Failure (List UInt8) :=
  Skip.run .value [] s

end OrderLookup.Json
