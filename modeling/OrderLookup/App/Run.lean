import OrderLookup.App.Arguments
import OrderLookup.App.Config
import OrderLookup.Page.Print
import OrderLookup.Page.Result
import OrderLookup.Service.Client

/-!
# Running commands

A command runs against an environment, the zone of the machine and whatever requests URLs. What it
prints is kept with its result, for a failure leaves standing what was printed before it.
-/

namespace OrderLookup

open Page Service

/-- What a command has printed, and whether it has succeeded or why it has failed. -/
structure Outcome where
  printed : String
  result : Except CommandError Bool

namespace Config

def override (config : Config) (options : Options) : Except CommandError Config := do
  let baseUrl ←
    match options.baseUrl with
    | some raw => parseBaseUrl raw
    | none => pure config.baseUrl
  return { baseUrl, inUtc := config.inUtc || options.inUtc }

/-- The configuration of a run. The environment has to be in order even where options override
it. -/
def load (env : Environment) (options : Options) : Except CommandError Config := do
  let config ← ofEnvironment env
  config.override options

def page (config : Config) (machine : Calendar.Zone) : ResultPage :=
  .fresh (config.zone machine) .blank

end Config

namespace Command

variable {m : Type → Type} [Monad m]

def runVisit (get : Url → m Exchange) (config : Config) (machine : Calendar.Zone)
    (location : String) : m Outcome := do
  let (phase, page) ← (config.page machine).visit (fun _ => fetchOrder get config.baseUrl) location
  return ⟨page.surface.print, .ok (phase = .result)⟩

def healthLines (h : Health) : List String :=
  ("status: " ++ h.status) :: (h.service.map ("service: " ++ ·)).toList ++
    (h.timestamp.map ("timestamp: " ++ ·)).toList

def runHealth (get : Url → m Exchange) (config : Config) : m Outcome := do
  match ← checkHealth get config.baseUrl with
  | .ok h => return ⟨String.join ((healthLines h).map (· ++ "\n")), .ok true⟩
  | .error e => return ⟨"", .error (.fetch e)⟩

/-- Runs a command under a configuration. A search prints the location that it goes on to visit. -/
def runWith (get : Url → m Exchange) (config : Config) (machine : Calendar.Zone) :
    Command → m Outcome
  | .search raw =>
    match submit raw with
    | .error e => pure ⟨"", .error (.invalidId e)⟩
    | .ok location => do
      let outcome ← runVisit get config machine location
      return { outcome with printed := location ++ "\n" ++ outcome.printed }
  | .visit location => runVisit get config machine location
  | .health => runHealth get config

def run (get : Url → m Exchange) (env : Environment) (machine : Calendar.Zone) (options : Options)
    (command : Command) : m Outcome :=
  match Config.load env options with
  | .error e => pure ⟨"", .error e⟩
  | .ok config => command.runWith get config machine

end Command

structure Report where
  status : Nat
  output : String
  errors : String
  deriving DecidableEq

def Outcome.report (outcome : Outcome) : Report :=
  match outcome.result with
  | .ok true => ⟨0, outcome.printed, ""⟩
  | .ok false => ⟨1, outcome.printed, ""⟩
  | .error e => ⟨e.exitStatus, outcome.printed, e.message ++ "\n"⟩

def versionText : String := "order_viewer 0.1.0\n"

def usage : String :=
  "Look up an order by uid and print it\n\n" ++
  "Usage: order_viewer [OPTIONS] <COMMAND>\n\n" ++
  "Commands:\n" ++
  "  search  Validate an order uid, then open its result page\n" ++
  "  open    Open a result page location, e.g. \"/result.html?order_uid=...\"\n" ++
  "  health  Query the order service health endpoint\n" ++
  "  help    Print this message or the help of the given subcommand(s)\n\n" ++
  "Options:\n" ++
  "      --base-url <BASE_URL>  Order service base URL (overrides ORDER_API_BASE_URL)\n" ++
  "      --utc                  Render dates in UTC instead of the local time zone\n" ++
  "  -h, --help                 Print help\n" ++
  "  -V, --version              Print version\n"

def Invocation.report {m : Type → Type} [Monad m] (get : Url → m Service.Exchange)
    (env : Environment) (machine : Calendar.Zone) : Invocation → m Report
  | .run options command => do
    let outcome ← command.run get env machine options
    return outcome.report
  | .version => pure ⟨0, versionText, ""⟩
  | .help => pure ⟨0, usage, ""⟩
  | .misuse => pure ⟨2, "", usage⟩

end OrderLookup
