import OrderLookup.Text.Percent
import OrderLookup.Text.Quoted
import OrderLookup.Text.Split
import OrderLookup.Url.Basic
import OrderLookup.Url.Reserved

/-!
# Hosts

A host is a domain name, an IPv4 address in any of its notations or an IPv6 address in brackets. It
is kept in its canonical form. Outside web and file URLs it is any text without certain characters.
-/

namespace OrderLookup.Url.Host

open OrderLookup.Text

def natOf? (base : Nat) (digits : List Char) : Option Nat :=
  digits.foldlM
    (fun n c => do
      let d ← Percent.hexValue? c
      if d < base then some (n * base + d) else none)
    0

/-- A number in an IPv4 address: hexadecimal after `0x`, octal after `0`, else decimal. -/
def ipv4Number? : List Char → Option Nat
  | [] => none
  | '0' :: 'x' :: digits => natOf? 16 digits
  | '0' :: 'X' :: digits => natOf? 16 digits
  | '0' :: d :: digits => natOf? 8 (d :: digits)
  | digits => natOf? 10 digits

def labels (name : List Char) : List (List Char) :=
  let all := splitAt (· == '.') name
  if all.getLast? = some [] then all.dropLast else all

/-- The last label of the name is a number, which makes it an IPv4 address or nothing. -/
def endsInNumber (name : List Char) : Bool :=
  match (labels name).getLast? with
  | none => false
  | some last => (!last.isEmpty && last.all Decimal.isDigit) || (ipv4Number? last).isSome

/-- The address of up to four numbers, of which the last fills the remaining bytes. -/
def ipv4? (name : List Char) : Option Nat := do
  let all := labels name
  guard (all.length ≤ 4)
  let numbers ← all.mapM ipv4Number?
  let last ← numbers.getLast?
  let bytes := numbers.dropLast
  let size := Nat.pow 256 (4 - bytes.length)
  guard (bytes.all (· ≤ 255) ∧ last < size)
  return bytes.foldl (fun n b => n * 256 + b) 0 * size + last

def ipv4Chars (address : Nat) : List Char :=
  [address / 0x1000000 % 256, address / 0x10000 % 256, address / 0x100 % 256].flatMap
    (fun n => Decimal.ofNat n ++ ['.']) ++ Decimal.ofNat (address % 256)

/-- A decimal byte without leading zeros. -/
def byte? (digits : List Char) : Option Nat :=
  if digits.isEmpty || !digits.all Decimal.isDigit then none
  else if digits.head? = some '0' ∧ digits.length ≠ 1 then none
  else if Decimal.value digits ≤ 255 then some (Decimal.value digits)
  else none

/-- The two pieces that an IPv4 address makes at the end of an IPv6 address. -/
def embedded? (s : List Char) : Option (List Nat) :=
  match (splitAt (· == '.') s).mapM byte? with
  | some [a, b, c, d] => some [a * 256 + b, c * 256 + d]
  | _ => none

/-- Reads the pieces of an IPv6 address behind those in `pieces`; `gap` tells how many come before a
double colon. Each step takes at least one character. -/
def pieces? : Nat → List Nat → Option Nat → List Char → Option (List Nat × Option Nat)
  | 0, _, _, _ => none
  | _ + 1, pieces, gap, [] => some (pieces, gap)
  | fuel + 1, pieces, gap, c :: rest =>
    if pieces.length = 8 then none
    else if c = ':' then
      if gap.isSome then none
      else pieces? fuel (pieces ++ [0]) (some (pieces.length + 1)) rest
    else
      let digits := ((c :: rest).take 4).takeWhile fun d => (Percent.hexValue? d).isSome
      match (c :: rest).drop digits.length, natOf? 16 digits with
      | [], some n => pieces? fuel (pieces ++ [n]) gap []
      | ':' :: d :: rest, some n => pieces? fuel (pieces ++ [n]) gap (d :: rest)
      | '.' :: _, _ =>
        if 6 < pieces.length then none
        else (embedded? (c :: rest)).map fun two => (pieces ++ two, gap)
      | _, _ => none

def ipv6? (s : List Char) : Option (List Nat) := do
  let (pieces, gap) ←
    match s with
    | ':' :: ':' :: rest => pieces? (rest.length + 1) [0] (some 1) rest
    | ':' :: _ => none
    | [] => none
    | s => pieces? (s.length + 1) [] none s
  match gap with
  | some n => return pieces.take n ++ List.replicate (8 - pieces.length) 0 ++ pieces.drop n
  | none => if pieces.length = 8 then return pieces else none

def zeros (pieces : List Nat) : Nat :=
  (pieces.takeWhile (· == 0)).length

/-- The position and the length of the longest run of zeros, of the first one if there are
several. -/
def longestZeros (pieces : List Nat) : Nat × Nat :=
  (List.range pieces.length).foldl
    (fun best i =>
      let length := zeros (pieces.drop i)
      if best.2 < length then (i, length) else best)
    (0, 0)

def joinPieces (pieces : List Nat) : List Char :=
  [':'].intercalate (pieces.map Quoted.hexadecimal)

/-- An IPv6 address in brackets; a double colon stands for the longest run of at least two zeros. -/
def ipv6Chars (pieces : List Nat) : List Char :=
  let (start, length) := longestZeros pieces
  let inner :=
    if length < 2 then joinPieces pieces
    else
      joinPieces (pieces.take start) ++ ':' :: ':' :: joinPieces (pieces.drop (start + length))
  '[' :: inner ++ [']']

def notInDomain (c : Char) : Bool :=
  Reserved.control c || !Percent.isAscii c ||
    c ∈ [' ', '%', '#', '/', ':', '<', '>', '?', '@', '[', '\\', ']', '^', '|']

def notInHost (c : Char) : Bool :=
  c ∈ ['\x00', '\t', '\n', '\r', ' ', '#', '/', ':', '<', '>', '?', '@', '[', '\\', ']', '^', '|']

def bracketed (s : List Char) : Except UrlError (List Char) :=
  if s.getLast? = some ']' then
    match ipv6? (s.drop 1).dropLast with
    | some pieces => .ok (ipv6Chars pieces)
    | none => .error .ipv6
  else .error .ipv6

def parse (s : List Char) : Except UrlError (List Char) :=
  if s.head? = some '[' then bracketed s
  else
    let name := (Utf8.decodeLossy (Percent.decode s)).map Char.toLower
    if name.any notInDomain then .error .domainName
    else if name.isEmpty then .error .emptyHost
    else if endsInNumber name then
      match ipv4? name with
      | some address => .ok (ipv4Chars address)
      | none => .error .ipv4
    else .ok name

def parseVerbatim (s : List Char) : Except UrlError (List Char) :=
  if s.head? = some '[' then bracketed s
  else if s.any notInHost then .error .domainCharacter
  else .ok (Percent.encode Reserved.control s)

end OrderLookup.Url.Host
