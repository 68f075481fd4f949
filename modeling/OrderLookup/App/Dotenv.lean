import OrderLookup.App.Config
import OrderLookup.Text.Alphanumeric
import OrderLookup.Text.Blank
import OrderLookup.Text.Split

/-!
# Variable files

A variable file has lines `NAME=value`, with comments, quotes, escapes and references to variables
that are set already. A variable that the environment sets keeps its value. Reading stops at the
first line that is not well formed; what stands before it counts.
-/

namespace OrderLookup.Dotenv

open OrderLookup.Text

/-- Where in a line the text stands, as far as it decides where the line ends. -/
inductive LineState where
  | complete
  | afterBlank
  | escaped
  | strong
  | strongEscaped
  | weak
  | weakEscaped
  | comment
  deriving DecidableEq

namespace LineState

def bare (c : Char) : LineState :=
  if c = '\\' then .escaped
  else if c = '"' then .weak
  else if c = '\'' then .strong
  else .complete

def next (state : LineState) (c : Char) : LineState :=
  match state with
  | .afterBlank => if c = '#' then .comment else bare c
  | .complete => if isBlank c && c != '\n' && c != '\r' then .afterBlank else bare c
  | .escaped => .complete
  | .weak => if c = '\\' then .weakEscaped else if c = '"' then .complete else .weak
  | .weakEscaped => .weak
  | .strong => if c = '\\' then .strongEscaped else if c = '\'' then .complete else .strong
  | .strongEscaped => .strong
  | .comment => .comment

/-- The state after a text, and the text up to where a comment starts. -/
def scan (state : LineState) : List Char → LineState × List Char
  | [] => (state, [])
  | c :: rest =>
    if state.next c = .comment then (.comment, [])
    else
      let (final, kept) := scan (state.next c) rest
      (final, c :: kept)

end LineState

def physicalLines (s : List Char) : List (List Char) :=
  match splitAt (· == '\n') s with
  | [] => []
  | parts => (parts.dropLast.map (· ++ ['\n'])) ++ (parts.getLast?.toList.filter (!·.isEmpty))

def withoutBreak (line : List Char) : List Char :=
  match line.reverse with
  | '\n' :: '\r' :: rest => rest.reverse
  | '\n' :: rest => rest.reverse
  | _ => line

/-- The lines of a file, a quoted text with line breaks being on one; the last one is `none` if it
does not end. `held` is what has been read of the line at hand. -/
def lines (held : List Char) (state : LineState) : List (List Char) → List (Option (List Char))
  | [] => if state = .complete then [] else [none]
  | line :: rest =>
    if (trimStart (held ++ line)).head? = some '#' then lines [] .complete rest
    else
      let (final, kept) := state.scan line
      match final with
      | .complete => some (withoutBreak (held ++ line)) :: lines [] .complete rest
      | .comment => some (held ++ kept) :: lines [] .complete rest
      | _ => lines (held ++ line) final rest

def isNameStart (c : Char) : Bool :=
  c.isAlpha || c == '_'

def isNameChar (c : Char) : Bool :=
  c.isAlphanum || c == '_' || c == '.'

def name? (s : List Char) : Option (String × List Char) :=
  if s.head?.any isNameStart then
    some (String.ofList (s.takeWhile isNameChar), trimStart (s.dropWhile isNameChar))
  else none

inductive QuoteMark where
  | bare
  | strong
  | weak
  deriving DecidableEq

/-- The name of a variable that is referred to, as far as it has been read, and whether it is in
braces. -/
structure Reference where
  name : List Char
  braced : Bool
  deriving DecidableEq

structure Draft where
  out : List Char
  quote : QuoteMark
  escaped : Bool
  reference : Option Reference
  /-- White space has ended the value; only a comment may follow. -/
  ended : Bool
  deriving DecidableEq

namespace Draft

def blank : Draft :=
  ⟨[], .bare, false, none, false⟩

def push (d : Draft) (c : Char) : Draft :=
  { d with out := d.out ++ [c] }

def resolve (env : Environment) (d : Draft) (name : List Char) : Draft :=
  { d with
    out := d.out ++ ((env (String.ofList name)).getD "").toList
    reference := none }

/-- A character in a reference. A dollar sign after a name starts another reference. -/
def refer (env : Environment) (d : Draft) (r : Reference) (c : Char) : Draft :=
  if isAlphanumeric c then { d with reference := some { r with name := r.name ++ [c] } }
  else if r.braced then
    if c = '}' then d.resolve env r.name
    else { d with reference := some { r with name := r.name ++ [c] } }
  else if c = '{' ∧ r.name.isEmpty then { d with reference := some ⟨[], true⟩ }
  else
    let d := d.resolve env r.name
    if c = '$' then { d with reference := some ⟨[], false⟩ } else d.push c

def escape? (c : Char) : Option Char :=
  if c ∈ ['\\', '\'', '"', '$', ' '] then some c else if c = 'n' then some '\n' else none

def read (env : Environment) (d : Draft) : List Char → Option Draft
  | [] => some d
  | c :: rest =>
    if d.ended then
      if c = ' ' ∨ c = '\t' then read env d rest else if c = '#' then some d else none
    else if d.escaped then
      match escape? c with
      | some e => read env { d.push e with escaped := false } rest
      | none => none
    else if d.quote = .strong then
      read env (if c = '\'' then { d with quote := .bare } else d.push c) rest
    else
      match d.reference with
      | some r => read env (d.refer env r c) rest
      | none =>
        if c = '$' then read env { d with reference := some ⟨[], false⟩ } rest
        else if c = '\\' then read env { d with escaped := true } rest
        else if c = '"' then
          read env { d with quote := if d.quote = .weak then .bare else .weak } rest
        else if d.quote = .weak then read env (d.push c) rest
        else if c = '\'' then read env { d with quote := .strong } rest
        else if c = ' ' ∨ c = '\t' then read env { d with ended := true } rest
        else read env (d.push c) rest

end Draft

def value? (env : Environment) (s : List Char) : Option String := do
  let d ← Draft.blank.read env s
  if d.quote ≠ .bare then none
  match d.reference with
  | none => return String.ofList d.out
  | some r => if r.braced then none else return String.ofList (d.resolve env r.name).out

/-- What a line says: nothing, or the value of a variable. -/
inductive Line where
  | blank
  | assignment (name value : String)
  deriving DecidableEq

def target? (s : List Char) : Option (String × List Char) := do
  let (name, rest) ← name? s
  let rest ← after? '=' rest
  return (name, rest)

def exported? (s : List Char) : Option (String × List Char) := do
  let (word, rest) ← name? s
  if word = "export" then target? rest else none

def line? (env : Environment) (s : List Char) : Option Line := do
  let s := trim s
  if s.isEmpty ∨ s.head? = some '#' then return .blank
  let (name, rest) ← target? s <|> exported? s
  let rest := trimStart rest
  if rest.isEmpty ∨ rest.head? = some '#' then return .assignment name ""
  let value ← value? env rest
  return .assignment name value

/-- The environment with a variable set, unless it is set already. -/
def assign (env : Environment) (name value : String) : Environment := fun key =>
  match env key with
  | some old => some old
  | none => if key = name then some value else none

def loadLines (env : Environment) : List (Option (List Char)) → Environment
  | [] => env
  | none :: _ => env
  | some line :: rest =>
    match line? env line with
    | some .blank => loadLines env rest
    | some (.assignment name value) => loadLines (assign env name value) rest
    | none => env

def load (env : Environment) (file : String) : Environment :=
  let text := file.toList
  let text := if text.head? = some '\uFEFF' then text.drop 1 else text
  loadLines env (lines [] .complete (physicalLines text))

end OrderLookup.Dotenv
