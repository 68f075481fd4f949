import OrderLookup.Text.Decimal

/-!
# URLs

An absolute URL by its components. Every component is kept in its encoded form, so that `Url.text`
only puts them together.
-/

namespace OrderLookup

inductive UrlError where
  | relative
  | emptyHost
  | domainName
  | domainCharacter
  | ipv4
  | ipv6
  | port
  deriving DecidableEq

def UrlError.message : UrlError → String
  | .relative => "relative URL without a base"
  | .emptyHost => "empty host"
  | .domainName => "invalid international domain name"
  | .domainCharacter => "invalid domain character"
  | .ipv4 => "invalid IPv4 address"
  | .ipv6 => "invalid IPv6 address"
  | .port => "invalid port number"

namespace Url

/-- Who is addressed: credentials, host and port. The host of a file is usually empty. -/
structure Authority where
  username : List Char
  password : Option (List Char)
  host : List Char
  port : Option Nat
  deriving DecidableEq

/-- A path of segments, each after a slash, or an unstructured one. -/
inductive Path where
  | rooted (segments : List (List Char))
  | unstructured (text : List Char)
  deriving DecidableEq

def Path.chars : Path → List Char
  | .rooted segments => segments.flatMap ('/' :: ·)
  | .unstructured text => text

/-- Schemes differ in how what follows them is read. -/
inductive Kind where
  | web
  | file
  | other
  deriving DecidableEq

/-- The schemes with an authority after slashes of any number, and their default ports. -/
def defaultPorts : List (String × Nat) :=
  [("http", 80), ("https", 443), ("ws", 80), ("wss", 443), ("ftp", 21)]

def defaultPort? (scheme : List Char) : Option Nat :=
  (defaultPorts.find? (·.1.toList == scheme)).map (·.2)

def Kind.ofScheme (scheme : List Char) : Kind :=
  if (defaultPort? scheme).isSome then .web
  else if scheme == "file".toList then .file
  else .other

/-- A backslash counts as a slash. -/
def Kind.isSpecial : Kind → Bool
  | .other => false
  | _ => true

end Url

structure Url where
  scheme : List Char
  authority : Option Url.Authority
  path : Url.Path
  query : Option (List Char)
  fragment : Option (List Char)
  deriving DecidableEq

namespace Url

def kind (url : Url) : Kind :=
  .ofScheme url.scheme

def Authority.hasCredentials (a : Authority) : Bool :=
  !a.username.isEmpty || a.password.isSome

def marked (mark : Char) : Option (List Char) → List Char
  | none => []
  | some text => mark :: text

def Authority.chars (a : Authority) : List Char :=
  (if a.hasCredentials then a.username ++ marked ':' a.password ++ ['@'] else []) ++ a.host ++
    marked ':' (a.port.map Text.Decimal.ofNat)

/-- What stands between the scheme and the path. Without an authority a path that starts with two
slashes is set off by a dot. -/
def authorityChars (url : Url) : List Char :=
  match url.authority, url.path.chars with
  | some a, _ => '/' :: '/' :: a.chars
  | none, '/' :: '/' :: _ => ['/', '.']
  | none, _ => []

/-- The path and the query, which is what a server is asked for. -/
def target (url : Url) : List Char :=
  url.path.chars ++ marked '?' url.query

def chars (url : Url) : List Char :=
  url.scheme ++ ':' :: url.authorityChars ++ url.target ++ marked '#' url.fragment

def text (url : Url) : String :=
  String.ofList url.chars

end Url

end OrderLookup
