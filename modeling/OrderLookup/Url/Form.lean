import OrderLookup.Text.Percent
import OrderLookup.Text.Split

/-!
# Form encoding

Pairs of texts as in the query of a URL: pairs are joined by `&`, the key and the value of a pair by
`=`, a blank is written as `+` and most other characters are percent-encoded.
-/

namespace OrderLookup.Url.Form

open OrderLookup.Text

def isPlain (c : Char) : Bool :=
  ('0' ≤ c && c ≤ '9') || ('A' ≤ c && c ≤ 'Z') || ('a' ≤ c && c ≤ 'z') ||
    c ∈ ['*', '-', '.', '_']

def encodeChar (c : Char) : List Char :=
  if isPlain c then [c] else if c = ' ' then ['+'] else
    (Utf8.encodeChar c).flatMap Percent.encodeByte

def encode (s : List Char) : List Char :=
  s.flatMap encodeChar

def decode (s : List Char) : List Char :=
  Utf8.decodeLossy (Percent.decode (s.map fun c => if c = '+' then ' ' else c))

def writePair (pair : List Char × List Char) : List Char :=
  encode pair.1 ++ '=' :: encode pair.2

def write : List (List Char × List Char) → List Char
  | [] => []
  | [pair] => writePair pair
  | pair :: later => writePair pair ++ '&' :: write later

/-- The pair that a part stands for; without `=` the value is empty. -/
def readPair (part : List Char) : List Char × List Char :=
  let (key, value) := cut '=' part
  (decode key, decode (value.getD []))

/-- The pairs of a written form. Empty parts stand for nothing. -/
def read (s : List Char) : List (List Char × List Char) :=
  ((splitAt (· == '&') s).filter (!·.isEmpty)).map readPair

end OrderLookup.Url.Form
