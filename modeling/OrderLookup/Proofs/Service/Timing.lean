import OrderLookup.Proofs.Json.Document
import OrderLookup.Proofs.Order.Slots
import OrderLookup.Proofs.Page.Modes
import OrderLookup.Proofs.Service.Classification
import OrderLookup.Proofs.Service.ServerTime

/-!
# The time that the server took

The page shows the number in the first header for the time if it can be read, and in all other cases
the time that the client took. `serverTime?_grammar` says so for all headers.
-/

namespace OrderLookup.Service

open OrderLookup.Text Page

variable {r : Response} {n : Nat}

/-- Every load that the response answers with an order shows the time, given the nanoseconds that
the response took. -/
def Response.Shows (r : Response) (time : Nat → Nat) : Prop :=
  ∀ (σ : Type) (get : Url → StateM σ Exchange) (state : σ) {base url : Url} {id : OrderId}
    {order : Order} {elapsed : Nat} (page : ResultPage) {uid : Option String},
    asked uid = .ok id → orderUrl base id = .ok url →
    ((get url).run state).1 = .answered r elapsed → r.Succeeds → Order.decode r.body = .ok order →
    ∃ after, ((page.load (fun _ id => fetchOrder get base id) uid).run state).1 =
        (.result, after) ∧
      after.surface.text? executionTime =
        some ("Request completed in " ++ natText (time elapsed) ++ " ms")

theorem load_of_order {σ : Type} {get : Url → StateM σ Exchange} {base url : Url} {id : OrderId}
    {uid : Option String} (found : asked uid = .ok id) (made : orderUrl base id = .ok url)
    {state : σ} {fetched : FetchedOrder}
    (brought : ((get url).run state).1.order = .ok fetched) (page : ResultPage) :
    ((page.load (fun _ id => fetchOrder get base id) uid).run state).1 =
      (.result, page.waiting.enter .result (resultEdits page.zone fetched)) := by
  have got : (get url).run state = (((get url).run state).1, ((get url).run state).2) := rfl
  simp only [ResultPage.load, ResultPage.start_eq, found, StateT.run_bind,
    fetchOrder_run made got, brought]
  rfl

theorem text?_resultEdits (s : Surface) (zone : Calendar.Zone) (order : Order) (ms : Nat)
    (timing : Timing) :
    (s.applyAll (resultEdits zone ⟨order, ms, timing⟩)).text? executionTime =
      some (timingText ms) := by
  rw [resultEdits, Surface.applyAll_append, Surface.text?_applyAll_same rfl (by simp),
    Surface.text?_render_time]

theorem shows_of_order {time : Nat → Nat}
    (brings : ∀ order elapsed, readBody Order.decode r = .ok order →
      ∃ timing, (Exchange.answered r elapsed).order = .ok ⟨order, time elapsed, timing⟩) :
    r.Shows time := by
  intro σ get state base url id order elapsed page uid found made brought success read
  have body : readBody Order.decode r = .ok order := by
    rw [readBody_of_success success, read]
  obtain ⟨timing, fetched⟩ := brings order elapsed body
  rw [← brought] at fetched
  refine ⟨_, load_of_order found made fetched page, ?_⟩
  rw [ResultPage.surface_enter]
  exact text?_resultEdits _ _ _ _ _

theorem shows_server (read : r.serverTime? = some n) : r.Shows fun _ => n := by
  apply shows_of_order
  intro order elapsed body
  refine ⟨.server, ?_⟩
  simp only [Exchange.order, body, read]
  rfl

theorem shows_client (unread : r.serverTime? = none) : r.Shows roundedMilliseconds := by
  apply shows_of_order
  intro order elapsed body
  refine ⟨.client, ?_⟩
  simp only [Exchange.order, body, unread]
  rfl

/-- A time is read just if the first header for it holds a numeral whose number fits 64 bits, and it
is that number; accumulating the digits in a word that may overflow comes to the same. So each such
number is read back from its decimal text and shown, while the client's time is shown for a larger
one. -/
theorem serverTime?_grammar (r : Response) :
    (∀ n, r.serverTime? = some n ↔
      ∃ value, FirstTime r.headers value ∧ Readable value ∧ TimeText value n ∧ n ≤ 2 ^ 64 - 1) ∧
    (r.serverTime? = none ↔
      ∀ value, FirstTime r.headers value → ∀ n, TimeText value n → 2 ^ 64 - 1 < n) ∧
    (∀ digits, digits ≠ [] → (∀ c ∈ digits, Decimal.isDigit c = true) →
      readMilliseconds? digits = (accumulate? 0 digits).map UInt64.toNat) ∧
    ∀ n front back, Padding front → Padding back →
      FirstTime r.headers (front ++ (Json.asciiBytes (natText n) ++ back)) →
        (n ≤ 2 ^ 64 - 1 → r.serverTime? = some n ∧ r.Shows fun _ => n) ∧
        (2 ^ 64 - 1 < n → r.serverTime? = none ∧ r.Shows roundedMilliseconds) := by
  have limit : maxMilliseconds = 2 ^ 64 - 1 := rfl
  refine ⟨fun n => ?_, ?_, fun digits => readMilliseconds?_accumulate,
    fun n front back before after first => ?_⟩
  · rw [serverTime?_eq_some_iff, Response.TellsTime]
    constructor
    · rintro ⟨value, first, text, small⟩
      exact ⟨value, first, text.readable, text, small⟩
    · rintro ⟨value, first, _, text, small⟩
      exact ⟨value, first, text, small⟩
  · simp only [Option.eq_none_iff_forall_ne_some, ne_eq, serverTime?_eq_some_iff,
      Response.TellsTime]
    constructor
    · intro unread value first n text
      exact Nat.lt_of_not_le fun small => unread n ⟨value, first, text, small⟩
    · rintro large n ⟨value, first, text, small⟩
      exact Nat.not_le_of_lt (large value first n text) small
  · have read := serverTime?_of_timeText first (timeText_natText before after n)
    rw [limit] at read
    constructor
    · intro small
      rw [if_pos small] at read
      exact ⟨read, shows_server read⟩
    · intro large
      rw [if_neg (Nat.not_le_of_lt large)] at read
      exact ⟨read, shows_client read⟩

/-- The largest time, with a sign and zeros, behind a header of another name and before a second
time; and the next number, with which the page shows the time of the client. -/
theorem serverTime?_largest :
    let answer (time : List UInt8) : Response :=
      ⟨200, [("Server", Json.asciiBytes "1"), ("X-Execution-Time-MS", time),
        ("x-execution-time-ms", Json.asciiBytes "5")], Order.encode Order.shape.blank⟩
    let late := answer ([0x20] ++ (Json.asciiBytes (natText 18446744073709551616) ++ [0x09]))
    let base : Url :=
      ⟨"http".toList, some ⟨[], none, "localhost".toList, none⟩, .rooted [[]], none, none⟩
    let get (_ : Url) : StateM Unit Exchange := pure (.answered late 1500000)
    (answer (Json.asciiBytes "\t+0018446744073709551615 ")).serverTime? =
        some 18446744073709551615 ∧
      late.serverTime? = none ∧
      ∃ after, (((ResultPage.fresh .utc .blank).load (fun _ id => fetchOrder get base id)
          (some "b563feb7b2b84b6test0")).run ()).1 = (.result, after) ∧
        after.surface.text? executionTime = some "Request completed in 2 ms" := by
  intro answer late base get
  let largest := Json.asciiBytes "\t+0018446744073709551615 "
  let id : OrderId := ⟨"b563feb7b2b84b6test0".toList, by decide, by decide⟩
  have first (time : List UInt8) : FirstTime (answer time).headers time :=
    ⟨[("Server", Json.asciiBytes "1")], "X-Execution-Time-MS",
      [("x-execution-time-ms", Json.asciiBytes "5")], rfl, by decide +kernel, by decide +kernel⟩
  have text : TimeText largest 18446744073709551615 :=
    ⟨[0x09], [0x2B], Json.asciiBytes "0018446744073709551615", [0x20], by decide +kernel,
      List.forall_mem_singleton.mpr (by decide), List.forall_mem_singleton.mpr (by decide),
      Or.inr rfl, by decide +kernel, by decide +kernel, by decide +kernel⟩
  have read := ((serverTime?_grammar (answer largest)).1 18446744073709551615).mpr
    ⟨largest, first largest, text.readable, text, by decide⟩
  obtain ⟨_, _, _, written⟩ := serverTime?_grammar late
  obtain ⟨_, larger⟩ := written 18446744073709551616 [0x20] [0x09]
    (List.forall_mem_singleton.mpr (by decide)) (List.forall_mem_singleton.mpr (by decide))
    (first _)
  obtain ⟨unread, shows⟩ := larger (by decide)
  have decoded : Order.decode late.body = .ok Order.shape.blank :=
    Json.Codec.decode_write Order.reads Order.writes Order.shape.blank
  have found : asked (some "b563feb7b2b84b6test0") = .ok id := by decide +kernel
  obtain ⟨url, made⟩ : ∃ url, orderUrl base id = .ok url := ⟨_, rfl⟩
  obtain ⟨after, loaded, shown⟩ :=
    shows Unit get () (ResultPage.fresh .utc .blank) found made rfl ⟨by decide, by decide⟩ decoded
  have two : natText (roundedMilliseconds 1500000) = "2" := by decide +kernel
  rw [two] at shown
  exact ⟨read, unread, after, loaded, shown⟩

end OrderLookup.Service
