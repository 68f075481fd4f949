/-!
# UTF-8

`encode` writes characters as bytes. `scan` reads bytes one at a time and marks every maximal
ill-formed part; `decode?` refuses such parts and `decodeLossy` puts U+FFFD in their place.
-/

namespace OrderLookup.Text.Utf8

def encodeChar (c : Char) : List UInt8 :=
  let n := c.toNat
  if n < 0x80 then [n.toUInt8]
  else if n < 0x800 then [(0xC0 + n / 64).toUInt8, (0x80 + n % 64).toUInt8]
  else if n < 0x10000 then
    [(0xE0 + n / 4096).toUInt8, (0x80 + n / 64 % 64).toUInt8, (0x80 + n % 64).toUInt8]
  else
    [(0xF0 + n / 262144).toUInt8, (0x80 + n / 4096 % 64).toUInt8, (0x80 + n / 64 % 64).toUInt8,
      (0x80 + n % 64).toUInt8]

def encode (s : List Char) : List UInt8 :=
  s.flatMap encodeChar

/-- What has been read of the character at hand: its leading bits, how many bytes are missing, and
the bounds on the next one. -/
inductive State where
  | start
  | within (value missing low high : Nat)
  deriving DecidableEq

/-- A byte in first position: what it completes, if anything, and the state after it. -/
def lead (b : Nat) : List (Option Char) × State :=
  if b < 0x80 then ([some (Char.ofNat b)], .start)
  else if b < 0xC2 then ([none], .start)
  else if b < 0xE0 then ([], .within (b - 0xC0) 1 0x80 0xBF)
  else if b = 0xE0 then ([], .within 0 2 0xA0 0xBF)
  else if b = 0xED then ([], .within 13 2 0x80 0x9F)
  else if b < 0xF0 then ([], .within (b - 0xE0) 2 0x80 0xBF)
  else if b = 0xF0 then ([], .within 0 3 0x90 0xBF)
  else if b < 0xF4 then ([], .within (b - 0xF0) 3 0x80 0xBF)
  else if b = 0xF4 then ([], .within 4 3 0x80 0x8F)
  else ([none], .start)

/-- A byte in any position. One that cannot continue the character at hand ends it as ill-formed
and is read again in first position. -/
def step (state : State) (b : Nat) : List (Option Char) × State :=
  match state with
  | .start => lead b
  | .within value missing low high =>
    if low ≤ b ∧ b ≤ high then
      let value := value * 64 + b % 64
      if missing ≤ 1 then ([some (Char.ofNat value)], .start)
      else ([], .within value (missing - 1) 0x80 0xBF)
    else
      let (out, next) := lead b
      (none :: out, next)

/-- The characters of a byte sequence, `none` for each ill-formed part. -/
def scan (state : State) : List UInt8 → List (Option Char)
  | [] => if state = .start then [] else [none]
  | b :: rest =>
    let (out, next) := step state b.toNat
    out ++ scan next rest

def decode? (bytes : List UInt8) : Option (List Char) :=
  (scan .start bytes).mapM id

/-- The text of any byte sequence, with U+FFFD for each ill-formed part. -/
def decodeLossy (bytes : List UInt8) : List Char :=
  (scan .start bytes).map (·.getD '\uFFFD')

end OrderLookup.Text.Utf8
