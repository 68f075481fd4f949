import OrderLookup.Url.Host
import OrderLookup.Url.Path

/-!
# Reading URLs

`Url.parse` reads an absolute URL. The fragment starts at the first `#` and the query at the first
`?` before it, whatever else the text holds; what remains is split by the kind of the scheme.
-/

namespace OrderLookup.Url

open OrderLookup.Text

/-- Control characters and blanks, which are ignored at either end. -/
def isPadding (c : Char) : Bool :=
  c.toNat ≤ 0x20

/-- The text that counts: without padding at its ends, and without tabs and line breaks. -/
def clean (s : List Char) : List Char :=
  (((s.dropWhile isPadding).reverse.dropWhile isPadding).reverse).filter (!Path.isDropped ·)

def isSchemeChar (c : Char) : Bool :=
  c.isAlphanum || c == '+' || c == '-' || c == '.'

def readScheme? (s : List Char) : Option (List Char × List Char) :=
  match s.head?, s.dropWhile isSchemeChar with
  | some first, ':' :: rest =>
    if first.isAlpha then some ((s.takeWhile isSchemeChar).map Char.toLower, rest) else none
  | _, _ => none

def readCredentials (s : List Char) : List Char × Option (List Char) :=
  let (name, password) := cut ':' s
  let encode := Percent.encode Reserved.credentials
  (encode name, (password.filter (!·.isEmpty)).map encode)

/-- What stands before the first colon outside brackets, and the rest from the colon on. -/
def splitHost (inside : Bool) : List Char → List Char × List Char
  | [] => ([], [])
  | c :: rest =>
    if c = ':' ∧ !inside then ([], c :: rest)
    else
      let inside := if c = '[' then true else if c = ']' then false else inside
      let (host, after) := splitHost inside rest
      (c :: host, after)

/-- A port after its colon: the number, unless there is none or it is the scheme's own, and what
follows. -/
def readPort (scheme s : List Char) : Except UrlError (Option Nat × List Char) :=
  let digits := s.takeWhile Decimal.isDigit
  let rest := s.dropWhile Decimal.isDigit
  let n := Decimal.value digits
  if 65535 < n then .error .port
  else if rest.head?.any (· != '\\') then .error .port
  else .ok (if digits.isEmpty ∨ defaultPort? scheme = some n then none else some n, rest)

/-- The authority at the front of `s`, and the path after it; `more` tells that a query or a
fragment follows. -/
def readAuthority (scheme : List Char) (more : Bool) (s : List Char) :
    Except UrlError (Authority × List Char) := do
  let kind := Kind.ofScheme scheme
  let front := s.takeWhile (!Path.isSlash kind ·)
  let path := s.dropWhile (!Path.isSlash kind ·)
  let (info, place) ←
    match cutLast? '@' front with
    | none => pure ([], front)
    | some ([], []) => if more || !path.isEmpty then throw .emptyHost else pure ([], [])
    | some (info, place) => pure (info, place)
  let (username, password) := readCredentials info
  let (name, after) := splitHost false place
  if kind = .web ∧ name.isEmpty then throw .emptyHost
  let host ← if kind.isSpecial then Host.parse name else Host.parseVerbatim name
  let (port, after) ←
    match after with
    | [] => pure (none, [])
    | _ :: after => if host.isEmpty then throw .emptyHost else readPort scheme after
  let authority : Authority := ⟨username, password, host, port⟩
  if host.isEmpty ∧ authority.hasCredentials then throw .emptyHost
  return (authority, after ++ path)

def fileAuthority (host : List Char) : Authority :=
  ⟨[], none, host, none⟩

/-- The path of a file with a host, which a path with a drive letter does away with. -/
def filePath (host s : List Char) : Authority × Path :=
  let segments := Path.segments .file s
  let onDrive := segments.head?.any Path.isDriveLetter
  (fileAuthority (if onDrive then [] else host), .rooted (Path.collapse .file segments))

def readFile (s : List Char) : Except UrlError (Authority × Path) :=
  let isSlash := Path.isSlash .file
  match s with
  | a :: b :: rest =>
    if isSlash a ∧ isSlash b then
      let name := rest.takeWhile (!isSlash ·)
      if Path.isDriveLetter name then .ok (filePath [] rest)
      else do
        let host ← if name.isEmpty then pure [] else Host.parse name
        let after := rest.dropWhile (!isSlash ·)
        return filePath (if host = "localhost".toList then [] else host) (after.drop 1)
    else .ok (filePath [] (if isSlash a then b :: rest else s))
  | [a] => .ok (filePath [] (if isSlash a then [] else s))
  | [] => .ok (filePath [] [])

def readBody (scheme : List Char) (more : Bool) (s : List Char) :
    Except UrlError (Option Authority × Path) := do
  let kind := Kind.ofScheme scheme
  let withAuthority (s : List Char) : Except UrlError (Option Authority × Path) := do
    let (authority, path) ← readAuthority scheme more s
    return (some authority, .rooted (Path.parseAfterAuthority kind path))
  match kind with
  | .web => withAuthority (s.dropWhile (Path.isSlash kind))
  | .file =>
    let (authority, path) ← readFile s
    return (some authority, path)
  | .other =>
    match s with
    | '/' :: '/' :: rest => withAuthority rest
    | '/' :: rest => return (none, .rooted (Path.parse kind rest))
    | _ => return (none, .unstructured (Percent.encode Reserved.control s))

def parse (text : String) : Except UrlError Url := do
  match readScheme? (clean text.toList) with
  | none => throw .relative
  | some (scheme, rest) =>
    let (front, fragment) := cut '#' rest
    let (front, query) := cut '?' front
    let (authority, path) ← readBody scheme (query.isSome || fragment.isSome) front
    let kind := Kind.ofScheme scheme
    let reserved := if kind.isSpecial then Reserved.specialQuery else Reserved.query
    return {
      scheme, authority, path
      query := query.map (Percent.encode reserved)
      fragment := fragment.map (Percent.encode Reserved.fragment) }

end OrderLookup.Url
