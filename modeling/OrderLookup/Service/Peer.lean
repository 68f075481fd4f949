import OrderLookup.Service.Redirect

/-!
# Scripted peers

A peer answers requests from a script, one reply per request, whatever is asked and wherever, and
keeps the request lines. It is what a client is run against when there is no network.
-/

namespace OrderLookup.Service

inductive Reply where
  | answer (response : Response)
  /-- Closes the connection without an answer. -/
  | close
  /-- Closes it before the end of the body. -/
  | breakOff (response : Response)
  deriving DecidableEq

structure Peer where
  /-- There is a peer to connect to. -/
  listening : Bool
  script : List Reply
  /-- The request lines that have come in. -/
  requests : List String
  deriving DecidableEq

def isBodiless (status : Nat) : Bool :=
  status == 101 || status == 204 || status == 304

/-- Statuses of three digits that end an exchange. Below 200 only a switch of protocols does; other
such responses announce a later one. -/
def isFinal (status : Nat) : Bool :=
  (200 ≤ status && status ≤ 999) || status == 101

def isInHeader (b : UInt8) : Bool :=
  b = 0x09 || (0x20 ≤ b && b != 0x7F)

/-- What a client makes of a response, given what becomes of one with a head that it can read. A
response that is not the final one counts as none, for no other follows. -/
def Response.exchange (r : Response) (arrives : Exchange) : Exchange :=
  if !isFinal r.status then .failed "the connection was closed before the response"
  else if !r.headers.all fun h => h.2.all isInHeader then .failed "the response is ill-formed"
  else arrives

def Reply.exchange : Reply → Exchange
  | .answer r =>
    r.exchange (.answered { r with body := if isBodiless r.status then [] else r.body } 0)
  | .close => .failed "the connection was closed before the response"
  | .breakOff r => r.exchange (.brokenOff r "the connection was closed before the end of the body")

/-- A response that breaks off before any of its body. -/
def Reply.truncate : Reply :=
  .breakOff ⟨200, [], []⟩

def requestLine (url : Url) : String :=
  String.ofList ("GET ".toList ++ url.target)

/-- Makes one request. When the script is used up, the connection is closed without an answer. -/
def Peer.send (url : Url) : StateM Peer Exchange := fun peer =>
  if peer.listening then
    let requests := peer.requests ++ [requestLine url]
    match peer.script with
    | reply :: script => (reply.exchange, { peer with script, requests })
    | [] => (Reply.close.exchange, { peer with requests })
  else (.failed "nothing listens there", peer)

def Peer.get : Url → StateM Peer Exchange :=
  follow Peer.send maxRedirects

end OrderLookup.Service
