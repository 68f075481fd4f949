import OrderLookup.App.Error
import OrderLookup.Calendar.Zone
import OrderLookup.Url.Parse

/-!
# Configuration

Where the order service is and in which zone dates are shown, from the environment.
-/

namespace OrderLookup

open OrderLookup.Text

/-- The environment: the values of the variables that are set. -/
abbrev Environment := String → Option String

structure Config where
  baseUrl : Url
  inUtc : Bool
  deriving DecidableEq

namespace Config

def defaultBaseUrl : String := "http://localhost:8081"

def baseUrlVariable : String := "ORDER_API_BASE_URL"

def inUtcVariable : String := "ORDER_VIEWER_DISPLAY_UTC"

def trimmed (s : String) : String :=
  String.ofList (trim s.toList)

def parseBaseUrl (raw : String) : Except CommandError Url :=
  match Url.parse (trimmed raw) with
  | .error e => .error (.config ("invalid base url '" ++ raw ++ "': " ++ e.message))
  | .ok url =>
    if url.scheme = "http".toList ∨ url.scheme = "https".toList then .ok url
    else
      .error (.config
        ("unsupported scheme '" ++ String.ofList url.scheme ++ "' in base url '" ++ raw ++ "'"))

/-- Reads the value of a switch, in any letter case. Nothing means off. -/
def parseSwitch (name raw : String) : Except CommandError Bool :=
  let word := String.ofList ((trim raw.toList).map Char.toLower)
  if word ∈ ["", "0", "false", "no"] then .ok false
  else if word ∈ ["1", "true", "yes"] then .ok true
  else .error (.config (name ++ " must be a boolean, got '" ++ raw ++ "'"))

/-- The URL to read from the environment; a blank variable counts as unset. -/
def baseUrlText (env : Environment) : String :=
  match env baseUrlVariable with
  | some raw => if (trim raw.toList).isEmpty then defaultBaseUrl else raw
  | none => defaultBaseUrl

def ofEnvironment (env : Environment) : Except CommandError Config := do
  let baseUrl ← parseBaseUrl (baseUrlText env)
  let inUtc ←
    match env inUtcVariable with
    | some raw => parseSwitch inUtcVariable raw
    | none => pure false
  return { baseUrl, inUtc }

def zone (config : Config) (machine : Calendar.Zone) : Calendar.Zone :=
  if config.inUtc then .utc else machine

end Config

end OrderLookup
