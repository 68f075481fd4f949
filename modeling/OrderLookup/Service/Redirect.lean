import OrderLookup.Service.Exchange
import OrderLookup.Text.Utf8
import OrderLookup.Url.Join

/-!
# Redirects

A response may send a request on to another URL. It is followed there, whatever becomes of its body,
until a response comes that does not, ten times at most.
-/

namespace OrderLookup.Service

def isRedirect (status : Nat) : Bool :=
  [301, 302, 303, 307, 308].contains status

def locationHeader : String := "location"

/-- Where a response to a request for a URL sends it on to. One that does not name a URL is taken as
it is. -/
def Response.target? (r : Response) (url : Url) : Option Url :=
  if isRedirect r.status then do
    let value ← r.header? locationHeader
    let reference ← Text.Utf8.decode? value
    url.join? (String.ofList reference)
  else none

namespace Exchange

def head? : Exchange → Option Response
  | .failed _ => none
  | .brokenOff r _ => some r
  | .answered r _ => some r

def target? (exchange : Exchange) (url : Url) : Option Url :=
  exchange.head?.bind (·.target? url)

end Exchange

def isRequestable (url : Url) : Bool :=
  url.scheme == "http".toList || url.scheme == "https".toList

def maxRedirects : Nat := 10

variable {m : Type → Type} [Monad m]

/-- Requests a URL, and those that it is sent on to as long as there are hops left, given what makes
a single request. -/
def follow (send : Url → m Exchange) : Nat → Url → m Exchange
  | 0, url => do
    let exchange ← send url
    match exchange.target? url with
    | none => return exchange
    | some _ => return .failed "too many redirects"
  | hops + 1, url => do
    let exchange ← send url
    match exchange.target? url with
    | none => return exchange
    | some next =>
      if isRequestable next then follow send hops next
      else return .failed "the redirect leads to no web address"

end OrderLookup.Service
