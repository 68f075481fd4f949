import OrderLookup.Proofs.Service.ServerTime
import OrderLookup.Proofs.Service.Trail
import OrderLookup.Proofs.Url.Parse
import OrderLookup.Service.Client

/-!
# What the client makes of an exchange

Both operations make a single request, unless it is sent on, and tell the same four outcomes apart,
in the same order: whether a complete response has come, what its status is, and whether the body is
the expected document. `operations_classify` says so for all base URLs, ids and peers.
-/

namespace OrderLookup.Service

variable {α : Type} {decode : List UInt8 → Except Json.Failure α}

/-! ### Peers that do not send on -/

def Response.Stays (r : Response) : Prop :=
  isRedirect r.status = true → r.header? locationHeader = none

/-- The response can be sent as it is, and the client stays with it. -/
structure Response.Deliverable (r : Response) : Prop where
  final : isFinal r.status = true
  stays : r.Stays
  headers : ∀ h ∈ r.headers, ∀ b ∈ h.2, isInHeader b = true

def Peer.response? (peer : Peer) : Option Response :=
  match peer.listening, peer.script with
  | true, .answer r :: _ => some r.received
  | _, _ => none

theorem Response.Stays.target? {r : Response} (stays : r.Stays) (url : Url) :
    r.target? url = none := by
  unfold Response.target?
  split
  · next redirect => rw [stays redirect]; rfl
  · rfl

theorem Response.Deliverable.isLegible {r : Response} (deliverable : r.Deliverable) :
    r.isLegible = true := by
  have headers : (r.headers.all fun h => h.2.all isInHeader) = true := by
    simpa only [List.all_eq_true] using deliverable.headers
  rw [Response.isLegible, deliverable.final, headers]
  rfl

/-- The request ends with the reply: a response that can be sent as it is, one that breaks off, or
none at all, and it is not sent on. -/
def Reply.Settles : Reply → Prop
  | .answer r => r.Deliverable
  | .close => True
  | .breakOff r => r.Stays

theorem Reply.head?_cases {reply : Reply} {r : Response} (head : reply.head? = some r) :
    reply = .answer r ∨ reply = .breakOff r := by
  cases reply with
  | close => cases head
  | answer r' =>
    obtain ⟨-, same⟩ := Option.ite_none_right_eq_some.mp head
    exact Or.inl (congrArg Reply.answer (Option.some.inj same))
  | breakOff r' =>
    obtain ⟨-, same⟩ := Option.ite_none_right_eq_some.mp head
    exact Or.inr (congrArg Reply.breakOff (Option.some.inj same))

theorem Reply.target?_of_stays {reply : Reply} (stays : ∀ r, reply.head? = some r → r.Stays)
    (url : Url) : reply.target? url = none := by
  unfold Reply.target?
  cases head : reply.head? with
  | none => rfl
  | some r => exact (stays r head).target? url

theorem Reply.Settles.target? {reply : Reply} (settles : reply.Settles) (url : Url) :
    reply.target? url = none := by
  apply Reply.target?_of_stays
  intro r head
  rcases Reply.head?_cases head with rfl | rfl
  · exact Response.Deliverable.stays settles
  · exact settles

theorem Reply.Settles.response? {reply : Reply} (settles : reply.Settles) :
    reply.response? = match reply with
      | .answer r => some r.received
      | _ => none := by
  cases reply with
  | answer r => exact if_pos settles.isLegible
  | close | breakOff r => rfl

/-- What comes of a call does not depend on the URL. -/
theorem Peer.get_run (peer : Peer)
    (settles : ∀ reply, peer.script.head? = some reply → reply.Settles) :
    ∃ exchange : Exchange, exchange.response? = peer.response? ∧
      ∀ url, (Peer.get url).run peer = (exchange, peer.asked url) := by
  obtain ⟨listening, script, requests⟩ := peer
  cases listening with
  | false => exact ⟨.failed _, rfl, fun _ => get_of_stays rfl rfl⟩
  | true =>
    cases script with
    | nil => exact ⟨.failed _, rfl, fun _ => get_of_stays rfl rfl⟩
    | cons reply rest =>
      have settled := settles reply rfl
      refine ⟨reply.exchange, ?_, fun url => get_of_stays rfl ?_⟩
      · rw [Reply.exchange_response?, settled.response?]
        cases reply <;> rfl
      · rw [Reply.exchange_target?, settled.target?]

/-! ### Reading a response -/

def Response.Succeeds (r : Response) : Prop :=
  200 ≤ r.status ∧ r.status ≤ 299

theorem Response.isSuccess_iff {r : Response} : r.isSuccess = true ↔ r.Succeeds := by
  simp [isSuccess, Succeeds]

/-- The outcomes of an operation that expects a document, by what has arrived. -/
structure Classifies (decode : List UInt8 → Except Json.Failure α) (arrived : Option Response)
    (result : Except FetchError α) : Prop where
  unreachable : (∃ detail, result = .error (.unreachable detail)) ↔ arrived = none
  reported : ∀ message, result = .error (.reported message) ↔
    ∃ r, arrived = some r ∧ ¬r.Succeeds ∧ message = complaintMessage r.body
  malformed : (∃ detail, result = .error (.malformed detail)) ↔
    ∃ r, arrived = some r ∧ r.Succeeds ∧
      ∃ failure, decode r.body = .error failure
  ok : ∀ a, result = .ok a ↔
    ∃ r, arrived = some r ∧ r.Succeeds ∧ decode r.body = .ok a

theorem classifies_unreachable (detail : String) :
    Classifies decode none (.error (.unreachable detail)) := by
  constructor <;> simp

theorem readBody_of_refused {r : Response} (refused : ¬r.Succeeds) :
    readBody decode r = .error (.reported (complaintMessage r.body)) := by
  simp only [readBody, mt Response.isSuccess_iff.mp refused, Bool.false_eq_true, ↓reduceIte]

theorem readBody_of_success {r : Response} (success : r.Succeeds) :
    readBody decode r =
      match decode r.body with
      | .ok a => .ok a
      | .error failure => .error (.malformed failure.message) :=
  if_pos (Response.isSuccess_iff.mpr success)

theorem classifies_readBody (r : Response) : Classifies decode (some r) (readBody decode r) := by
  by_cases success : r.Succeeds
  · rw [readBody_of_success success]
    cases read : decode r.body with
    | error failure => constructor <;> simp [success, read]
    | ok a => constructor <;> simp [success, read]
  · rw [readBody_of_refused success]
    constructor <;> simp [success, @eq_comm _ (complaintMessage r.body)]

/-- The time is the server's just when the headers tell one. -/
structure Response.Timed (r : Response) (ms : Nat) (timing : Timing) : Prop where
  server : ∀ n, timing = .server ∧ ms = n ↔ r.TellsTime n
  client : timing = .client ↔ ∀ n, ¬r.TellsTime n

namespace Exchange

variable {r : Response}

theorem order_of_error {e : FetchError} (h : readBody Order.decode r = .error e) (elapsed : Nat) :
    (answered r elapsed).order = .error e := by
  simp only [order, h]
  rfl

theorem order_of_ok {order : Order} (h : readBody Order.decode r = .ok order) (elapsed : Nat) :
    ∃ ms timing, (answered r elapsed).order = .ok ⟨order, ms, timing⟩ ∧ r.Timed ms timing := by
  have told (n : Nat) : r.serverTime? = some n ↔ r.TellsTime n := serverTime?_eq_some_iff
  cases time : r.serverTime? with
  | none =>
    refine ⟨roundedMilliseconds elapsed, .client, ?_, ⟨?_, ?_⟩⟩
    · simp only [Exchange.order, h, time]
      rfl
    · simp [← told, time]
    · simp [← told, time]
  | some n =>
    refine ⟨n, .server, ?_, ⟨?_, ?_⟩⟩
    · simp only [Exchange.order, h, time]
      rfl
    · simp [← told, time]
    · simp [← told, time]

theorem health_classifies (exchange : Exchange) :
    Classifies Health.decode exchange.response? exchange.health := by
  cases exchange with
  | failed detail => exact classifies_unreachable detail
  | brokenOff _ detail => exact classifies_unreachable detail
  | answered r elapsed => exact classifies_readBody r

theorem order_classifies (exchange : Exchange) :
    Classifies Order.decode exchange.response? (exchange.order.map (·.order)) := by
  cases exchange with
  | failed detail => exact classifies_unreachable detail
  | brokenOff _ detail => exact classifies_unreachable detail
  | answered r elapsed =>
    have same : (answered r elapsed).order.map (·.order) = readBody Order.decode r := by
      cases read : readBody Order.decode r with
      | error e => rw [order_of_error read elapsed]; rfl
      | ok order =>
        obtain ⟨ms, timing, fetched, _⟩ := order_of_ok read elapsed
        rw [fetched]; rfl
    rw [same]
    exact classifies_readBody r

theorem order_timed {exchange : Exchange} {fetched : FetchedOrder}
    (h : exchange.order = .ok fetched) :
    ∃ r, exchange.response? = some r ∧ r.Timed fetched.milliseconds fetched.timing := by
  cases exchange with
  | failed detail => cases h
  | brokenOff _ detail => cases h
  | answered r elapsed =>
    refine ⟨r, rfl, ?_⟩
    cases read : readBody Order.decode r with
    | error e =>
      rw [order_of_error read elapsed] at h
      cases h
    | ok order =>
      obtain ⟨ms, timing, same, timed⟩ := order_of_ok read elapsed
      rw [same] at h
      cases h
      exact timed

/-- What fails before a document is read fails alike. -/
theorem same_failure {exchange : Exchange}
    (failed : ∀ r, exchange.response? = some r → ¬r.Succeeds) :
    ∃ e, exchange.order = .error e ∧ exchange.health = .error e := by
  cases exchange with
  | failed detail => exact ⟨_, rfl, rfl⟩
  | brokenOff _ detail => exact ⟨_, rfl, rfl⟩
  | answered r elapsed =>
    have refused := failed r rfl
    exact ⟨_, order_of_error (readBody_of_refused refused) elapsed, readBody_of_refused refused⟩

end Exchange

/-! ### The operations -/

variable {base : Url}

theorem endpoint_ok {segments : List (List Char)} (rooted : base.path = .rooted segments)
    (more : List (List Char)) : ∃ url, endpoint base more = .ok url := by
  simp only [endpoint, Url.extend?, rooted]
  exact ⟨_, rfl⟩

theorem fetchOrder_run {σ : Type} {get : Url → StateM σ Exchange} {id : OrderId} {url : Url}
    (made : orderUrl base id = .ok url) {state after : σ} {exchange : Exchange}
    (got : (get url).run state = (exchange, after)) :
    (fetchOrder get base id).run state = (exchange.order, after) := by
  simp only [fetchOrder, made, StateT.run_bind, got]
  rfl

theorem checkHealth_run {url : Url} (made : healthUrl base = .ok url)
    {peer after : Peer} {exchange : Exchange}
    (got : (Peer.get url).run peer = (exchange, after)) :
    (checkHealth Peer.get base).run peer = (exchange.health, after) := by
  simp only [checkHealth, made, StateT.run_bind, got]
  rfl

/-- With a reply that does not send the request on, both operations ask a peer that listens once, and
take at most one reply. They are unreachable just when no complete response has come; then the
status decides, whatever the headers and the body, and then the body. Without a document to read
both fail alike. The time that comes with an order is the server's just when the headers tell
one. -/
theorem operations_classify {raw : String} (accepted : Config.parseBaseUrl raw = .ok base)
    (id : OrderId) {peer : Peer}
    (settles : ∀ reply, peer.script.head? = some reply → reply.Settles) :
    ∃ url url' fetched checked,
      orderUrl base id = .ok url ∧
      (fetchOrder Peer.get base id).run peer = (fetched, peer.asked url) ∧
      healthUrl base = .ok url' ∧
      (checkHealth Peer.get base).run peer = (checked, peer.asked url') ∧
      Classifies Order.decode peer.response? (fetched.map (·.order)) ∧
      Classifies Health.decode peer.response? checked ∧
      (∀ success, fetched = .ok success →
        ∃ r, peer.response? = some r ∧ r.Timed success.milliseconds success.timing) ∧
      ((∀ r, peer.response? = some r → ¬r.Succeeds) →
        ∃ e, fetched = .error e ∧ checked = .error e) := by
  -- Only a base URL without segments has no URLs below it, and none such is accepted.
  obtain ⟨_, segments, rooted⟩ := Config.parseBaseUrl_ok accepted
  obtain ⟨url, made⟩ : ∃ url, orderUrl base id = .ok url := endpoint_ok rooted _
  obtain ⟨url', made'⟩ : ∃ url, healthUrl base = .ok url := endpoint_ok rooted _
  obtain ⟨exchange, arrived, got⟩ := peer.get_run settles
  rw [← arrived]
  exact ⟨url, url', exchange.order, exchange.health, made, fetchOrder_run made (got url), made',
    checkHealth_run made' (got url'), exchange.order_classifies, exchange.health_classifies,
    fun _ => Exchange.order_timed, Exchange.same_failure⟩

def refusing : Peer :=
  ⟨true, [.answer ⟨503, [(timeHeader, Json.asciiBytes "12")],
    Json.asciiBytes "\x7b\"status\":\"ok\",\"message\":\"closed\"\x7d"⟩, .truncate], []⟩

/-- The status comes before the record in the body, and no second request is made. -/
theorem refused_despite_record :
    ∃ base id, Config.parseBaseUrl "http://localhost:8081/v1" = .ok base ∧
      OrderId.parse "abcdefghijklmnopqrst" = .ok id ∧
      (fetchOrder Peer.get base id).run refusing =
        (.error (.reported "closed"), ⟨true, [.truncate], ["GET /v1/order/abcdefghijklmnopqrst"]⟩) ∧
      (checkHealth Peer.get base).run refusing =
        (.error (.reported "closed"), ⟨true, [.truncate], ["GET /v1/health"]⟩) := by
  let base : Url :=
    ⟨"http".toList, some ⟨[], none, "localhost".toList, some 8081⟩, .rooted ["v1".toList], none,
      none⟩
  let id : OrderId := ⟨"abcdefghijklmnopqrst".toList, by decide, by decide⟩
  have accepted : Config.parseBaseUrl "http://localhost:8081/v1" = .ok base := rfl
  have settles : ∀ reply, refusing.script.head? = some reply → reply.Settles := by
    rintro reply ⟨⟩
    exact ⟨rfl, nofun, by decide +kernel⟩
  obtain ⟨url, url', fetched, checked, made, ran, made', ran', _, judged, _, same⟩ :=
    operations_classify accepted id settles
  have refused : ∀ r, refusing.response? = some r → ¬r.Succeeds := by
    rintro r ⟨⟩
    exact fun success => absurd success.2 (by decide)
  have reported : checked = .error (.reported "closed") :=
    (judged.reported "closed").mpr ⟨_, rfl, refused _ rfl, rfl⟩
  obtain ⟨e, failed, failed'⟩ := same refused
  obtain rfl : e = .reported "closed" := Except.error.inj (failed'.symm.trans reported)
  obtain rfl : url = { base with path := .rooted ["v1".toList, "order".toList, id.chars] } :=
    Except.ok.inj (made.symm.trans rfl)
  obtain rfl : url' = { base with path := .rooted ["v1".toList, "health".toList] } :=
    Except.ok.inj (made'.symm.trans rfl)
  exact ⟨base, id, accepted, rfl, by rw [ran, failed]; rfl, by rw [ran', reported]; rfl⟩

end OrderLookup.Service
