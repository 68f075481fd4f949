import OrderLookup.Text.Split
import OrderLookup.Url.Basic
import OrderLookup.Url.Reserved

/-!
# Paths

A path is built segment by segment. A segment of one dot stands for nothing and one of two dots
takes back the segment before it, except that a drive letter stays.
-/

namespace OrderLookup.Url.Path

open OrderLookup.Text

/-- One dot, also percent-encoded. -/
def isSingleDot (segment : List Char) : Bool :=
  segment.map Char.toLower ∈ [".".toList, "%2e".toList]

def isDoubleDot (segment : List Char) : Bool :=
  segment.map Char.toLower ∈
    ["..".toList, ".%2e".toList, "%2e.".toList, "%2e%2e".toList]

def isDriveLetter : List Char → Bool
  | [letter, mark] => letter.isAlpha && (mark == ':' || mark == '|')
  | _ => false

/-- The path without its last segment, unless that is a drive letter. -/
def shorten (segments : List (List Char)) : List (List Char) :=
  match segments.getLast? with
  | some last => if isDriveLetter last then segments else segments.dropLast
  | none => []

/-- The segment as it is kept: a drive letter at the start of a file path is written with a
colon. -/
def normalize (kind : Kind) (segments : List (List Char)) (segment : List Char) : List Char :=
  if kind = .file ∧ segments.isEmpty ∧ isDriveLetter segment then segment.take 1 ++ [':']
  else segment

/-- A path with one more encoded segment; `last` tells that no slash follows it. -/
def add (kind : Kind) (segments : List (List Char)) (last : Bool) (segment : List Char) :
    List (List Char) :=
  if isDoubleDot segment then shorten segments ++ if last then [[]] else []
  else if isSingleDot segment then segments ++ if last then [[]] else []
  else segments ++ [normalize kind segments segment]

def addAll (kind : Kind) (segments : List (List Char)) : List (List Char) → List (List Char)
  | [] => segments
  | [last] => add kind segments true last
  | segment :: later => addAll kind (add kind segments false segment) later

def isSlash (kind : Kind) (c : Char) : Bool :=
  c == '/' || (kind.isSpecial && c == '\\')

def collapse (kind : Kind) (segments : List (List Char)) : List (List Char) :=
  if kind = .file then
    match segments.dropWhile List.isEmpty with
    | [] => [[]]
    | rest => rest
  else segments

def segments (kind : Kind) (s : List Char) : List (List Char) :=
  addAll kind [] ((splitAt (isSlash kind) s).map (Percent.encode Reserved.path))

def parse (kind : Kind) (s : List Char) : List (List Char) :=
  collapse kind (segments kind s)

/-- The segments of the path after an authority, with or without its first slash. Only outside web
and file URLs a path can be empty. -/
def parseAfterAuthority (kind : Kind) (s : List Char) : List (List Char) :=
  match s with
  | [] => if kind.isSpecial then [[]] else []
  | c :: rest => if isSlash kind c then parse kind rest else parse kind (c :: rest)

def isDropped (c : Char) : Bool :=
  c == '\t' || c == '\n' || c == '\r'

def encodeSegment (kind : Kind) (segment : List Char) : List Char :=
  Percent.encode (if kind.isSpecial then Reserved.specialSegment else Reserved.segment)
    (segment.filter (!isDropped ·))

/-- A path with one more segment of any text. The root is replaced. Segments of one or two dots are
left out. -/
def push (kind : Kind) (segments : List (List Char)) (segment : List Char) : List (List Char) :=
  if segment = ['.'] ∨ segment = ['.', '.'] then segments
  else
    collapse kind
      (add kind (if segments = [[]] then [] else segments) true (encodeSegment kind segment))

def popIfEmpty (segments : List (List Char)) : List (List Char) :=
  if 2 ≤ segments.length ∧ segments.getLast? = some [] then segments.dropLast else segments

end OrderLookup.Url.Path

namespace OrderLookup.Url

/-- The URL with segments added to its path, in place of an empty last one. There is none if the
path has no segments. -/
def extend? (url : Url) (segments : List (List Char)) : Option Url :=
  match url.path with
  | .rooted path =>
    some { url with path := .rooted (segments.foldl (Path.push url.kind) (Path.popIfEmpty path)) }
  | .unstructured _ => none

end OrderLookup.Url
