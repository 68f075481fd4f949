import OrderLookup.Service.Exchange
import OrderLookup.Url.Path

/-!
# The client of the service

The service has two endpoints below its base URL. Each call makes one request, and none if the base
URL cannot have a path.
-/

namespace OrderLookup.Service

def endpoint (base : Url) (segments : List (List Char)) : Except FetchError Url :=
  match base.extend? segments with
  | some url => .ok url
  | none => .error (.unreachable ("base url '" ++ base.text ++ "' cannot carry a path"))

def orderUrl (base : Url) (id : OrderId) : Except FetchError Url :=
  endpoint base ["order".toList, id.chars]

def healthUrl (base : Url) : Except FetchError Url :=
  endpoint base ["health".toList]

variable {m : Type → Type} [Monad m]

def fetchOrder (get : Url → m Exchange) (base : Url) (id : OrderId) : m FetchOutcome :=
  match orderUrl base id with
  | .error e => pure (.error e)
  | .ok url => do
    let exchange ← get url
    return exchange.order

def checkHealth (get : Url → m Exchange) (base : Url) : m (Except FetchError Health) :=
  match healthUrl base with
  | .error e => pure (.error e)
  | .ok url => do
    let exchange ← get url
    return exchange.health

end OrderLookup.Service
