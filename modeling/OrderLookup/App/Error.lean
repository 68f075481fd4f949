import OrderLookup.Order.Fetch

/-!
# Failures

What can go wrong between a command and its result, with the message that is shown and the exit
status of the program.
-/

namespace OrderLookup

inductive CommandError where
  | config (detail : String)
  | invalidId (cause : InvalidId)
  | fetch (cause : FetchError)
  | io (detail : String)
  deriving DecidableEq

namespace CommandError

def message : CommandError → String
  | .config detail => "Configuration error: " ++ detail
  | .invalidId cause => cause.message
  | .fetch cause => cause.message
  | .io detail => "I/O error: " ++ detail

/-- Rejected input is told apart from failures. -/
def exitStatus : CommandError → Nat
  | .invalidId _ => 2
  | _ => 1

end CommandError

end OrderLookup
