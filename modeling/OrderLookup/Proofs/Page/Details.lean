import Mathlib.Data.List.Forall2
import OrderLookup.Page.Print
import OrderLookup.Proofs.Page.Run
import OrderLookup.Proofs.Service.Classification

/-!
# Details of failures

The detail of an unreachable service or of a malformed answer is kept for the log. Two runs whose
outcomes differ in such details alone cannot be told apart on any page, and neither can two runs
against peers whose replies bring neither an order nor a message (`details_withheld`).
-/

namespace OrderLookup

def FetchError.Withheld : FetchError → Prop
  | .reported _ => False
  | .unreachable _ => True
  | .malformed _ => True

theorem FetchError.Withheld.message_eq {e : FetchError} (h : e.Withheld) :
    e.message = "Error occurred while loading the order." := by
  cases e with
  | reported => exact h.elim
  | unreachable | malformed => rfl

inductive SameButDetail : FetchOutcome → FetchOutcome → Prop where
  | same (outcome : FetchOutcome) : SameButDetail outcome outcome
  | withheld {e e' : FetchError} : e.Withheld → e'.Withheld → SameButDetail (.error e) (.error e')

namespace Page

inductive Action.SameButDetail : Action → Action → Prop where
  | load (uid : Option String) {o o' : FetchOutcome} :
      OrderLookup.SameButDetail o o' → SameButDetail (.load uid o) (.load uid o')
  | visit (location : String) {o o' : FetchOutcome} :
      OrderLookup.SameButDetail o o' → SameButDetail (.visit location o) (.visit location o')
  | renew (zone : Calendar.Zone) : SameButDetail (.renew zone) (.renew zone)

/-- Nothing that a user can look at differs: neither the page while the source is asked nor what the
load leads to. -/
structure Turn.LooksLike (t t' : Turn) : Prop where
  asked : t.inquiries.map (fun i => (i.id, i.page)) = t'.inquiries.map fun i => (i.id, i.page)
  returned : t.returned = t'.returned
  after : t.after = t'.after

namespace ResultPage

theorem settle_sameButDetail {o o' : FetchOutcome} (h : SameButDetail o o') (page : ResultPage) :
    page.settle o = page.settle o' := by
  cases h with
  | same => rfl
  | withheld h h' =>
    unfold settle
    dsimp only
    rw [h.message_eq, h'.message_eq]

theorem loadTurn_looksLike {o o' : FetchOutcome} (h : SameButDetail o o') (page : ResultPage)
    (uid : Option String) : (page.loadTurn uid o).LooksLike (page.loadTurn uid o') := by
  cases accepted : asked uid with
  | error message =>
    rw [loadTurn_of_error accepted, loadTurn_of_error accepted]
    exact ⟨rfl, rfl, rfl⟩
  | ok id =>
    have settled := settle_sameButDetail h page.waiting
    rw [loadTurn_of_ok accepted, loadTurn_of_ok accepted]
    exact ⟨rfl, congrArg ResultPage.phase settled, settled⟩

theorem turns_looksLike {actions actions' : List Action}
    (h : List.Forall₂ Action.SameButDetail actions actions') (page : ResultPage) :
    List.Forall₂ Turn.LooksLike (page.turns actions) (page.turns actions') := by
  induction h generalizing page with
  | nil => exact .nil
  | cons head _ ih =>
    cases head with
    | load uid outcomes =>
      have now := page.loadTurn_looksLike outcomes uid
      rw [turns, turns, ← now.after]
      exact .cons now (ih _)
    | visit location outcomes =>
      have now := page.loadTurn_looksLike outcomes (orderUid? location)
      rw [turns, turns, visitTurn_eq, visitTurn_eq, ← now.after]
      exact .cons now (ih _)
    | renew zone => exact ih _

end ResultPage

end Page

/-! ### Over a peer -/

namespace Service

/-- A reply with which a load ends, with neither an order nor a message of the server. -/
def Reply.Mute : Reply → Prop
  | .answer r => r.Succeeds ∧ ∀ order, Order.decode r.body ≠ .ok order
  | .close => True
  | .breakOff r => r.Stays

inductive Reply.Alike : Reply → Reply → Prop where
  | same (reply : Reply) : Alike reply reply
  | mute {reply reply' : Reply} : reply.Mute → reply'.Mute → Alike reply reply'

theorem readBody_mute {r : Response} (success : r.Succeeds)
    (nothing : ∀ order, Order.decode r.body ≠ .ok order) :
    ∃ detail, readBody Order.decode r = .error (.malformed detail) := by
  rw [readBody_of_success success]
  cases read : Order.decode r.body with
  | ok order => exact (nothing order read).elim
  | error failure => exact ⟨_, rfl⟩

theorem decode_nothing : ∀ order, Order.decode [] ≠ .ok order := nofun

theorem Response.decode_received {r : Response} (nothing : ∀ order, Order.decode r.body ≠ .ok order) :
    ∀ order, Order.decode r.received.body ≠ .ok order := by
  unfold Response.received
  dsimp only
  split
  · exact decode_nothing
  · exact nothing

theorem Exchange.order_of_no_response {exchange : Exchange} (none : exchange.response? = none) :
    ∃ e, exchange.order = .error e ∧ e.Withheld := by
  cases exchange with
  | failed detail => exact ⟨_, rfl, trivial⟩
  | brokenOff _ detail => exact ⟨_, rfl, trivial⟩
  | answered r elapsed => cases none

theorem Response.Succeeds.stays {r : Response} (success : r.Succeeds) : r.Stays := by
  intro redirect
  have status : r.status ∈ [301, 302, 303, 307, 308] := List.contains_iff_mem.mp redirect
  obtain ⟨-, most⟩ := success
  have more : ∀ n ∈ [301, 302, 303, 307, 308], 299 < n := by decide
  exact absurd most (Nat.not_le_of_lt (more _ status))

theorem Reply.Mute.target? {reply : Reply} (mute : reply.Mute) (url : Url) :
    reply.target? url = none := by
  apply Reply.target?_of_stays
  intro r head
  rcases Reply.head?_cases head with rfl | rfl
  · exact mute.1.stays
  · exact mute

theorem Reply.Mute.order {reply : Reply} (mute : reply.Mute) :
    ∃ e, reply.exchange.order = .error e ∧ e.Withheld := by
  cases reply with
  | close => exact ⟨_, rfl, trivial⟩
  | breakOff r => exact Exchange.order_of_no_response (Reply.exchange_response? (.breakOff r))
  | answer r =>
    obtain ⟨success, nothing⟩ := mute
    rw [Reply.exchange]
    cases legible : r.isLegible with
    | false =>
      obtain ⟨detail, failed⟩ := Response.exchange_of_not_legible legible (.answered r.received 0)
      exact ⟨.unreachable detail, congrArg Exchange.order failed, trivial⟩
    | true =>
      have received : r.received.Succeeds := success
      obtain ⟨detail, read⟩ := readBody_mute received (Response.decode_received nothing)
      rw [Response.exchange_of_legible legible]
      exact ⟨_, Exchange.order_of_error read 0, trivial⟩

theorem Reply.Alike.order {reply reply' : Reply} (h : reply.Alike reply') :
    SameButDetail reply.exchange.order reply'.exchange.order := by
  cases h with
  | same => exact .same _
  | mute h h' =>
    obtain ⟨e, brings, withheld⟩ := h.order
    obtain ⟨e', brings', withheld'⟩ := h'.order
    rw [brings, brings']
    exact .withheld withheld withheld'

theorem Reply.Alike.target? {reply reply' : Reply} (h : reply.Alike reply') (url : Url) :
    reply.exchange.target? url = reply'.exchange.target? url := by
  cases h with
  | same => rfl
  | mute h h' =>
    rw [Reply.exchange_target?, Reply.exchange_target?, h.target?, h'.target?]

structure Peer.Alike (peer peer' : Peer) : Prop where
  listening : peer.listening = peer'.listening
  script : List.Forall₂ Reply.Alike peer.script peer'.script
  requests : peer.requests = peer'.requests

theorem Peer.Alike.send {peer peer' : Peer} (h : peer.Alike peer') (url : Url) :
    ∃ exchange exchange' after after', (Peer.send url).run peer = (exchange, after) ∧
      (Peer.send url).run peer' = (exchange', after') ∧
      exchange.target? url = exchange'.target? url ∧
      SameButDetail exchange.order exchange'.order ∧ after.Alike after' := by
  obtain ⟨listening, script, requests⟩ := peer
  obtain ⟨listening', script', requests'⟩ := peer'
  obtain ⟨same, scripts, asked⟩ := h
  dsimp only at same scripts asked
  subst same asked
  cases listening with
  | false => exact ⟨_, _, _, _, rfl, rfl, rfl, .same _, rfl, scripts, rfl⟩
  | true =>
    cases scripts with
    | nil => exact ⟨_, _, _, _, rfl, rfl, rfl, .same _, rfl, .nil, rfl⟩
    | cons head later =>
      exact ⟨_, _, _, _, rfl, rfl, head.target? url, head.order, rfl, later, rfl⟩

/-- Requests are sent on alike, so that the calls end with replies that are alike. -/
theorem Peer.Alike.follow (hops : Nat) {peer peer' : Peer} (h : peer.Alike peer') (url : Url) :
    let ran := (Service.follow Peer.send hops url).run peer
    let ran' := (Service.follow Peer.send hops url).run peer'
    SameButDetail ran.1.order ran'.1.order ∧ ran.2.Alike ran'.2 := by
  induction hops generalizing peer peer' url with
  | zero =>
    obtain ⟨exchange, exchange', _, _, sent, sent', targets, orders, after⟩ := h.send url
    dsimp only
    rw [Peer.follow_run sent, Peer.follow_run sent', ← targets]
    cases exchange.target? url with
    | none => exact ⟨orders, after⟩
    | some next => exact ⟨.same _, after⟩
  | succ hops ih =>
    obtain ⟨exchange, exchange', _, _, sent, sent', targets, orders, after⟩ := h.send url
    dsimp only
    rw [Peer.follow_run sent, Peer.follow_run sent', ← targets]
    cases exchange.target? url with
    | none => exact ⟨orders, after⟩
    | some next =>
      dsimp only
      split
      · exact ih after next
      · exact ⟨.same _, after⟩

theorem Peer.Alike.fetchOrder {peer peer' : Peer} (h : peer.Alike peer') (base : Url)
    (id : OrderId) :
    SameButDetail ((fetchOrder Peer.get base id).run peer).1
        ((fetchOrder Peer.get base id).run peer').1 ∧
      ((fetchOrder Peer.get base id).run peer).2.Alike
        ((fetchOrder Peer.get base id).run peer').2 := by
  unfold Service.fetchOrder
  cases orderUrl base id with
  | error e => exact ⟨.same _, h⟩
  | ok url => exact h.follow maxRedirects url

end Service

namespace Page.ResultPage

open Service

/-- Loads values one after the other, with the page after each. A visit loads the value that its
location asks for. -/
def loads (base : Url) (page : ResultPage) : List (Option String) → StateM Peer (List ResultPage)
  | [] => return []
  | uid :: later => do
    let (_, next) ← page.load (fun _ => fetchOrder Peer.get base) uid
    let pages ← next.loads base later
    return next :: pages

theorem loads_cons (base : Url) (page : ResultPage) (uid : Option String)
    (later : List (Option String)) (peer : Peer) :
    (page.loads base (uid :: later)).run peer =
      let first := (page.load (fun _ => fetchOrder Peer.get base) uid).run peer
      let rest := (first.1.2.loads base later).run first.2
      (first.1.2 :: rest.1, rest.2) := rfl

variable {peer peer' : Peer}

theorem load_alike (h : peer.Alike peer') (base : Url) (page : ResultPage) (uid : Option String) :
    let load := page.load (fun _ => fetchOrder Peer.get base) uid
    (load.run peer).1 = (load.run peer').1 ∧ (load.run peer).2.Alike (load.run peer').2 := by
  dsimp only
  unfold load
  rw [start_eq]
  cases asked uid with
  | error message => exact ⟨rfl, h⟩
  | ok id =>
    obtain ⟨outcomes, after⟩ := h.fetchOrder base id
    exact ⟨congrArg returned (settle_sameButDetail outcomes page.waiting), after⟩

theorem loads_alike (h : peer.Alike peer') (base : Url) (page : ResultPage)
    (uids : List (Option String)) :
    ((page.loads base uids).run peer).1 = ((page.loads base uids).run peer').1 ∧
      ((page.loads base uids).run peer).2.Alike ((page.loads base uids).run peer').2 := by
  induction uids generalizing page peer peer' with
  | nil => exact ⟨rfl, h⟩
  | cons uid later ih =>
    obtain ⟨same, after⟩ := load_alike h base page uid
    rw [loads_cons, loads_cons]
    dsimp only
    rw [← same]
    obtain ⟨pages, rest⟩ := ih after _
    exact ⟨congrArg (_ :: ·) pages, rest⟩

/-- Two runs on the same page, with outcomes that are the same but for the details of an unreachable
service or a malformed answer, lead step by step to the same phase, the same surface and the same
printed page, and show the same whenever the source is asked. So do two runs over peers whose
replies are the same except where neither brings an order or a message: no complete response has
come, or a success whose body is no order. -/
theorem details_withheld (page : ResultPage) :
    (∀ actions actions', List.Forall₂ Action.SameButDetail actions actions' →
      List.Forall₂ (fun t t' =>
        t.returned = t'.returned ∧ t.after = t'.after ∧
          t.after.surface.print = t'.after.surface.print ∧
          t.inquiries.map (fun i => (i.id, i.page)) = t'.inquiries.map fun i => (i.id, i.page))
        (page.turns actions) (page.turns actions')) ∧
    ∀ (base : Url) (uids : List (Option String)) (peer peer' : Peer), peer.Alike peer' →
      let (pages, after) := (page.loads base uids).run peer
      let (pages', after') := (page.loads base uids).run peer'
      pages = pages' ∧ after.requests = after'.requests := by
  constructor
  · intro actions actions' alike
    refine (turns_looksLike alike page).imp fun t t' looks => ?_
    exact ⟨looks.returned, looks.after, by rw [looks.after], looks.asked⟩
  · intro base uids peer peer' alike
    obtain ⟨same, after⟩ := loads_alike alike base page uids
    exact ⟨same, after.requests⟩

/-- Nothing of a detail comes back when an order is loaded after the failure, nor do the bytes and
headers of a success without an order show. -/
theorem details_withheld_before_order :
    let page := fresh .utc .blank
    let uid := some "b563feb7b2b84b6test0"
    let order : Order :=
      ⟨"b563feb7b2b84b6test0", "", "", none, none, [], "", none, "", "", "", 0, "", ""⟩
    let brought : FetchOutcome := .ok ⟨order, 42, .server⟩
    let refused : FetchOutcome := .error (.unreachable "refused")
    let garbled : FetchOutcome := .error (.malformed "secret")
    let base : Url :=
      ⟨"http".toList, some ⟨[], none, "localhost".toList, none⟩, .rooted [[]], none, none⟩
    let leaking : Response := ⟨200, [(timeHeader, Json.asciiBytes "7")], Json.asciiBytes "secret"⟩
    List.Forall₂ (fun t t' => t.after.surface.print = t'.after.surface.print)
        (page.turns [.load uid refused, .load uid brought])
        (page.turns [.load uid garbled, .load uid brought]) ∧
      ((page.loads base [uid, none]).run ⟨true, [.answer leaking], []⟩).1 =
        ((page.loads base [uid, none]).run ⟨true, [.answer ⟨201, [], []⟩], []⟩).1 := by
  intro page uid order brought refused garbled base leaking
  have ⟨steps, pages⟩ := details_withheld page
  have actions : List.Forall₂ Action.SameButDetail
      [.load uid refused, .load uid brought] [.load uid garbled, .load uid brought] :=
    .cons (.load uid (.withheld trivial trivial)) (.cons (.load uid (.same brought)) .nil)
  have mute : (Reply.answer leaking).Mute := ⟨⟨by decide, by decide⟩, nofun⟩
  have mute' : (Reply.answer ⟨201, [], []⟩).Mute := ⟨⟨by decide, by decide⟩, nofun⟩
  have peers : Peer.Alike ⟨true, [.answer leaking], []⟩ ⟨true, [.answer ⟨201, [], []⟩], []⟩ :=
    ⟨rfl, .cons (.mute mute mute') .nil, rfl⟩
  exact ⟨(steps _ _ actions).imp fun _ _ same => same.2.2.1, (pages base [uid, none] _ _ peers).1⟩

end Page.ResultPage

end OrderLookup
