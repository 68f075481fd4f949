/-!
# Command lines

A command line names one of three commands, with options before or after the name. What starts with
a hyphen is an option; after two hyphens nothing is. An option may occur once before the name of the
command and once after it, and there counts more.
-/

namespace OrderLookup

inductive Command where
  /-- Look up the order with an id as typed. -/
  | search (raw : String)
  /-- Open a location. -/
  | visit (location : String)
  | health
  deriving DecidableEq

structure Options where
  baseUrl : Option String
  inUtc : Bool
  deriving DecidableEq

inductive Invocation where
  | run (options : Options) (command : Command)
  | version
  | help
  | misuse
  deriving DecidableEq

namespace Options

def absent : Options :=
  ⟨none, false⟩

def merge (before after : Options) : Options :=
  ⟨after.baseUrl <|> before.baseUrl, before.inUtc || after.inUtc⟩

end Options

namespace Arguments

inductive Verb where
  | search
  | visit
  | health
  deriving DecidableEq

def verb? (word : String) : Option Verb :=
  if word = "search" then some .search
  else if word = "open" then some .visit
  else if word = "health" then some .health
  else none

/-- The command of a verb with the words that were not options. -/
def Verb.command? : Verb → List String → Option Command
  | .search, [raw] => some (.search raw)
  | .visit, [location] => some (.visit location)
  | .health, [] => some .health
  | _, _ => none

/-- The most words that are not options. -/
def Verb.arity : Verb → Nat
  | .health => 0
  | _ => 1

inductive Token where
  | word (text : String)
  | baseUrl
  | baseUrlIs (value : String)
  | inUtc
  | version
  | help
  | endOfOptions
  | unknown
  deriving DecidableEq

def baseUrlMark : List Char := "--base-url=".toList

def Token.of (arg : String) : Token :=
  if arg = "--base-url" then .baseUrl
  else if arg = "--utc" then .inUtc
  else if arg = "--version" then .version
  else if arg = "--help" then .help
  else if arg = "--" then .endOfOptions
  else if baseUrlMark.isPrefixOf arg.toList then
    .baseUrlIs (String.ofList (arg.toList.drop baseUrlMark.length))
  else
    match arg.toList with
    | '-' :: 'V' :: _ => .version
    | '-' :: 'h' :: _ => .help
    | '-' :: _ :: _ => .unknown
    | _ => .word arg

/-- Arguments after the name of a command: `words` are those that were not options. -/
def afterVerb (verb : Verb) (before : Options) (options : Options) (words : List String) :
    List String → Invocation
  | [] =>
    match verb.command? words with
    | some command => .run (before.merge options) command
    | none => .misuse
  | arg :: rest =>
    match Token.of arg with
    | .word word =>
      if words.length < verb.arity then afterVerb verb before options (words ++ [word]) rest
      else .misuse
    | .inUtc =>
      if options.inUtc then .misuse
      else afterVerb verb before { options with inUtc := true } words rest
    | .baseUrlIs value =>
      if options.baseUrl.isSome then .misuse
      else afterVerb verb before { options with baseUrl := some value } words rest
    | .baseUrl =>
      match rest with
      | value :: rest =>
        if Token.of value = .word value ∧ options.baseUrl.isNone then
          afterVerb verb before { options with baseUrl := some value } words rest
        else .misuse
      | [] => .misuse
    | .endOfOptions =>
      match verb.command? (words ++ rest) with
      | some command => .run (before.merge options) command
      | none => .misuse
    | .help => .help
    | .version => .misuse
    | .unknown => .misuse

/-- Arguments up to the name of a command. -/
def beforeVerb (options : Options) : List String → Invocation
  | [] => .misuse
  | arg :: rest =>
    match Token.of arg with
    | .word word =>
      match verb? word with
      | some verb => afterVerb verb options Options.absent [] rest
      | none =>
        if word = "help" ∧ (rest.isEmpty ∨ rest.length = 1 ∧
            rest.all fun topic => (verb? topic).isSome || topic == "help") then .help
        else .misuse
    | .inUtc => if options.inUtc then .misuse else beforeVerb { options with inUtc := true } rest
    | .baseUrlIs value =>
      if options.baseUrl.isSome then .misuse
      else beforeVerb { options with baseUrl := some value } rest
    | .baseUrl =>
      match rest with
      | value :: rest =>
        if Token.of value = .word value ∧ options.baseUrl.isNone then
          beforeVerb { options with baseUrl := some value } rest
        else .misuse
      | [] => .misuse
    | .help => .help
    | .version => .version
    | .endOfOptions => .misuse
    | .unknown => .misuse

def parse (args : List String) : Invocation :=
  beforeVerb Options.absent args

end Arguments

end OrderLookup
