import OrderLookup.App.Dotenv
import OrderLookup.App.Machine
import OrderLookup.App.Run
import OrderLookup.Service.Redirect

/-!
# The program

The command line around `Invocation.report`. It brings no network: every request fails as if nothing
listened.
-/

namespace OrderLookup.Program

/-- The words of a text that may be names of variables. -/
def variableNames (file : String) : List String :=
  (Text.splitAt (!Dotenv.isNameChar ·) file.toList).map String.ofList

def readEnvironment (names : List String) : IO Environment := do
  let values ← names.mapM fun name => do
    let value ← IO.getEnv name
    return (name, value)
  return fun name => (values.lookup name).join

def readVariableFile : IO String :=
  try IO.FS.readFile ".env" catch _ => return ""

def send (_ : Url) : IO Service.Exchange :=
  return .failed "there is no network"

def request : Url → IO Service.Exchange :=
  Service.follow send Service.maxRedirects

end OrderLookup.Program

open OrderLookup OrderLookup.Program in
def main (args : List String) : IO UInt32 := do
  let file ← readVariableFile
  let names := ["TZ", Config.baseUrlVariable, Config.inUtcVariable] ++ variableNames file
  let env := Dotenv.load (← readEnvironment names) file
  let report ← (Arguments.parse args).report request env (machineZone env)
  IO.print report.output
  IO.eprint report.errors
  return report.status.toUInt32
