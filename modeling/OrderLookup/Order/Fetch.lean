import OrderLookup.Order.Id
import OrderLookup.Order.Record

/-!
# Fetching an order

What comes of asking the order service for one order.
-/

namespace OrderLookup

/-- Why an order could not be fetched. Only what the server itself reports is shown; the other
causes keep their detail for the log. -/
inductive FetchError where
  | reported (message : String)
  | unreachable (detail : String)
  | malformed (detail : String)
  deriving DecidableEq

namespace FetchError

def message : FetchError → String
  | .reported message => message
  | .unreachable _ => "Error occurred while loading the order."
  | .malformed _ => "Error occurred while loading the order."

def detail : FetchError → String
  | .reported message => message
  | .unreachable detail => detail
  | .malformed detail => detail

end FetchError

inductive Timing where
  | server
  | client
  deriving DecidableEq

structure FetchedOrder where
  order : Order
  milliseconds : Nat
  timing : Timing
  deriving DecidableEq

abbrev FetchOutcome := Except FetchError FetchedOrder

end OrderLookup
