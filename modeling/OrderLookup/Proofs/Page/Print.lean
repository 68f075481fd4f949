import OrderLookup.Page.Print
import OrderLookup.Proofs.Page.History
import OrderLookup.Proofs.Page.Search

/-!
# The printed page

The text of a loaded order, written out line by line, is what is printed after a load that succeeds,
whatever the surface held; after one that fails the message is all there is (`turns_print`).
-/

namespace OrderLookup.Page

/-! ### The text of an order -/

def labelled (label value : String) : String :=
  label ++ ": " ++ value

def orderLines (zone : Calendar.Zone) (o : Order) : List String := [
  labelled "order_uid" o.orderUid,
  labelled "track_number" o.trackNumber,
  labelled "entry" o.entry,
  labelled "locale" o.locale,
  labelled "internal_signature" (o.internalSignature.getD ""),
  labelled "customer_id" o.customerId,
  labelled "delivery_service" o.deliveryService,
  labelled "shardkey" o.shardkey,
  labelled "sm_id" (int64Text o.smId),
  labelled "date_created" (Calendar.formatDate zone o.dateCreated),
  labelled "oof_shard" o.oofShard]

def deliveryLines (d : Delivery) : List String := [
  labelled "name" d.name,
  labelled "phone" d.phone,
  labelled "zip" d.zip,
  labelled "city" d.city,
  labelled "address" d.address,
  labelled "region" d.region,
  labelled "email" d.email]

def paymentLines (zone : Calendar.Zone) (p : Payment) : List String := [
  labelled "transaction" p.transaction,
  labelled "request_id" (p.requestId.getD ""),
  labelled "currency" p.currency,
  labelled "provider" p.provider,
  labelled "amount" (int64Text p.amount),
  labelled "payment_dt" (Calendar.formatEpoch zone (some p.paidAt.toInt)),
  labelled "bank" p.bank,
  labelled "delivery_cost" (int64Text p.deliveryCost),
  labelled "goods_total" (int64Text p.goodsTotal),
  labelled "custom_fee" (int64Text p.customFee)]

def cardLines (index : Nat) (item : Item) : List String :=
  ("-- Item " ++ natText (index + 1) ++ " --") :: [
    labelled "  chrt_id" (int64Text item.chrtId),
    labelled "  track_number" item.trackNumber,
    labelled "  price" (int64Text item.price),
    labelled "  rid" item.rid,
    labelled "  name" item.name,
    labelled "  sale" (int64Text item.sale ++ "%"),
    labelled "  size" item.size,
    labelled "  total_price" (int64Text item.totalPrice),
    labelled "  nm_id" (int64Text item.nmId),
    labelled "  brand" item.brand,
    labelled "  status" (statusLabel item.status.toInt)]

def itemsLines (items : List Item) : List String :=
  if items = [] then ["No items in order"]
  else items.zipIdx.flatMap fun (item, index) => cardLines index item

def sectionText (title : String) (lines : List String) : List String :=
  "" :: ("== " ++ title ++ " ==") :: lines

def orderText (zone : Calendar.Zone) (ms : Nat) (o : Order) (d : Delivery) (p : Payment) :
    String :=
  String.join <| List.map (· ++ "\n") <|
    ("Request completed in " ++ natText ms ++ " ms") ::
      (sectionText "Order" (orderLines zone o) ++ sectionText "Delivery" (deliveryLines d) ++
        sectionText "Payment" (paymentLines zone p) ++
        sectionText ("Items (" ++ natText o.items.length ++ ")") (itemsLines o.items))

def errorText (message : String) : String :=
  "Error: " ++ message ++ "\n"

/-! ### Lines of a surface -/

namespace Surface

variable {s : Surface} {zone : Calendar.Zone}

/-- Labels and texts are told apart in two tables, which have the regions in common. -/
theorem fieldLines_of {α : Type} {labels : List (RegionId × String)} {fields : List (FieldView α)}
    {a : α} (agree : labels.map (·.1) = fields.map (·.region))
    (h : ∀ f ∈ fields, s.text? f.region = some (f.value zone a)) :
    labels.map s.fieldLine =
      List.zipWith (fun label f => labelled label.2 (f.value zone a)) labels fields := by
  induction labels generalizing fields with
  | nil =>
    rw [List.zipWith_nil_left]
    rfl
  | cons label labels ih =>
    cases fields with
    | nil => cases agree
    | cons f fields =>
      obtain ⟨same, later⟩ := List.cons.inj agree
      obtain ⟨shown, rest⟩ := List.forall_mem_cons.mp h
      have text : s.text? label.1 = some (f.value zone a) := (congrArg s.text? same).trans shown
      rw [List.map_cons, List.zipWith_cons_cons, ih later rest, fieldLine, text]
      rfl

theorem sectionLines_of {α : Type} {part : Section} {fields : List (FieldView α)} {a : α}
    (agree : part.fields.map (·.1) = fields.map (·.region))
    (h : ∀ f ∈ fields, s.text? f.region = some (f.value zone a)) :
    s.sectionLines part = sectionText part.title
      (List.zipWith (fun label f => labelled label.2 (f.value zone a)) part.fields fields) := by
  rw [sectionLines, fieldLines_of agree h]
  rfl

theorem lines_card (index : Nat) (item : Item) :
    Entry.lines (.card (itemCard index item)) = cardLines index item := by
  have title : "-- " ++ ("Item " ++ natText (index + 1)) ++ " --" =
      "-- Item " ++ natText (index + 1) ++ " --" := by
    rw [← String.append_assoc]
    rfl
  rw [Entry.lines, itemCard, title]
  rfl

theorem lines_itemEntries (items : List Item) :
    (itemEntries items).flatMap Entry.lines = itemsLines items := by
  rw [itemEntries, itemsLines]
  cases items with
  | nil => rfl
  | cons item items =>
    rw [if_neg (by simp), if_neg (by simp), List.mapIdx_eq_zipIdx_map, List.flatMap_map]
    exact congrArg (List.flatMap · _) (funext fun (item, index) => lines_card index item)

theorem lines_error {message : String} (noLoading : s.isVisible loading = false)
    (error : s.isVisible Page.error = true) (noResult : s.isVisible result = false)
    (text : s.text? errorMessage = some message) : s.print = errorText message := by
  rw [print, lines, noLoading, error, noResult, text]
  simp [errorText, String.join]

structure Holds (s : Surface) (zone : Calendar.Zone) (ms : Nat) (o : Order) (d : Delivery)
    (p : Payment) : Prop where
  order : ∀ f ∈ Order.fields, s.text? f.region = some (f.value zone o)
  delivery : ∀ f ∈ Delivery.fields, s.text? f.region = some (f.value zone d)
  payment : ∀ f ∈ Payment.fields, s.text? f.region = some (f.value zone p)
  count : s.text? itemsCount = some (natText o.items.length)
  items : s.list itemsList = itemEntries o.items
  time : s.text? executionTime = some (timingText ms)

variable {ms : Nat} {o : Order} {d : Delivery} {p : Payment}

theorem Holds.resultLines (h : s.Holds zone ms o d p) :
    s.resultLines =
      timingText ms :: (sectionText "Order" (orderLines zone o) ++
        sectionText "Delivery" (deliveryLines d) ++ sectionText "Payment" (paymentLines zone p) ++
        sectionText ("Items (" ++ natText o.items.length ++ ")") (itemsLines o.items)) := by
  have heading (count : String) : "== Items (" ++ count ++ ") ==" =
      "== " ++ ("Items (" ++ count ++ ")") ++ " ==" := by
    rw [show "== Items (" = "== " ++ "Items (" from rfl, show ") ==" = ")" ++ " ==" from rfl]
    simp only [String.append_assoc]
  have items : s.itemLines =
      sectionText ("Items (" ++ natText o.items.length ++ ")") (itemsLines o.items) := by
    rw [itemLines, h.count, h.items, lines_itemEntries, Option.getD_some, heading]
    rfl
  rw [Surface.resultLines, h.time, items, sections, List.flatMap_cons, List.flatMap_cons,
    List.flatMap_cons, sectionLines_of regions_orderSection h.order,
    sectionLines_of regions_deliverySection h.delivery,
    sectionLines_of regions_paymentSection h.payment]
  rfl

theorem Holds.print (h : s.Holds zone ms o d p) (noLoading : s.isVisible loading = false)
    (noError : s.isVisible error = false) (shown : s.isVisible result = true) :
    s.print = orderText zone ms o d p := by
  rw [Surface.print, lines, noLoading, noError, shown]
  change String.join (s.resultLines.map (· ++ "\n")) = _
  rw [h.resultLines]
  rfl

theorem Holds.setVisible (h : s.Holds zone ms o d p) (id : RegionId) (visible : Bool) :
    (s.apply (.setVisible id visible)).Holds zone ms o d p := by
  have text (key : RegionId) : (s.applyAll [.setVisible id visible]).text? key = s.text? key :=
    text?_applyAll_same rfl (by simp)
  exact {
    order f member := (text f.region).trans (h.order f member)
    delivery f member := (text f.region).trans (h.delivery f member)
    payment f member := (text f.region).trans (h.payment f member)
    count := (text itemsCount).trans h.count
    items := h.items
    time := (text executionTime).trans h.time }

/-- What was on the surface before does not matter. -/
theorem holds_render (complete : s.Complete) (delivery : o.delivery = some d)
    (payment : o.payment = some p) : (s.render zone o ms).Holds zone ms o d p := by
  have written {id : RegionId} (member : id ∈ textRegions) {text : String}
      (last : lastOf? (Edit.textFor? id) (renderEdits zone o ms) = some text) :
      (s.render zone o ms).text? id = some text := by
    rw [render, text?_applyAll (complete.text member), last]
    rfl
  have always : ∀ id ∈ recordRegions, id ∈ textRegions := by decide
  exact {
    order f member := written (always _ (header_mem member)) (textFor?_renderEdits_order member)
    delivery f member := by
      apply written (always _ (delivery_mem member))
      rw [textFor?_renderEdits_delivery member, delivery]
      rfl
    payment f member := by
      apply written (always _ (payment_mem member))
      rw [textFor?_renderEdits_payment member, payment]
      rfl
    count := written (by decide) (textFor?_renderEdits_other (by decide))
    items := by
      rw [list, if_pos rfl, render, entries_render]
    time := text?_render_time s }

theorem holds_result (complete : s.Complete) {fetched : FetchedOrder}
    (delivery : fetched.order.delivery = some d) (payment : fetched.order.payment = some p) :
    (s.applyAll (resultEdits zone fetched)).Holds zone fetched.milliseconds fetched.order d p := by
  rw [resultEdits, applyAll_append]
  exact ((holds_render complete delivery payment).setVisible loading false).setVisible result true

end Surface

namespace ResultPage

def Prints (t : Turn) : Prop :=
  (∀ inquiry ∈ t.inquiries, ∀ fetched d p, inquiry.outcome = .ok fetched →
    fetched.order.delivery = some d → fetched.order.payment = some p →
      t.after.surface.print =
        orderText t.before.zone fetched.milliseconds fetched.order d p) ∧
    (t.returned = .error →
      ∃ message, t.message? = some message ∧ t.after.surface.print = errorText message)

theorem fail_prints {page : ResultPage} (complete : page.surface.Complete) (message : String) :
    (page.fail message).surface.print = errorText message := by
  have shows := fail_showsPhase complete message
  exact Surface.lines_error (shows loading (by decide)) (shows error (by decide))
    (shows result (by decide)) (text?_fail complete message)

theorem result_prints {page : ResultPage} (complete : page.surface.Complete)
    {fetched : FetchedOrder} {d : Delivery} {p : Payment}
    (delivery : fetched.order.delivery = some d) (payment : fetched.order.payment = some p) :
    (page.waiting.enter .result (resultEdits page.zone fetched)).surface.print =
      orderText page.zone fetched.milliseconds fetched.order d p := by
  have still : page.waiting.surface.Complete := complete_enter complete .loading loadingEdits
  have shows := result_showsPhase still (waiting_showsPhase complete) rfl page.zone fetched
  have noLoading := shows loading (by decide)
  have noError := shows error (by decide)
  have shown := shows result (by decide)
  rw [surface_enter] at noLoading noError shown ⊢
  exact (Surface.holds_result still delivery payment).print noLoading noError shown

theorem loadTurn_prints {page : ResultPage} (complete : page.surface.Complete)
    (uid : Option String) (outcome : FetchOutcome) :
    Prints (page.loadTurn uid outcome) ∧
      (page.loadTurn uid outcome).after.surface.Complete := by
  refine ⟨?_, (loadTurn_keepsModes complete uid outcome).2⟩
  rcases page.loadTurn_cases uid outcome with
    ⟨message, refused, turn⟩ | ⟨id, e, accepted, rfl, turn⟩ | ⟨id, fetched, accepted, rfl, turn⟩
  · rw [turn]
    refine ⟨by simp, fun _ => ⟨message, by simp [Turn.message?, refused], ?_⟩⟩
    exact fail_prints complete message
  · rw [turn]
    have still : page.waiting.surface.Complete := complete_enter complete .loading loadingEdits
    refine ⟨by simp, fun _ => ⟨e.message, by simp [Turn.message?, accepted], ?_⟩⟩
    exact fail_prints still e.message
  · rw [turn]
    refine ⟨?_, fun failed => by cases failed⟩
    intro inquiry asked brought d p outcome delivery payment
    obtain rfl := List.mem_singleton.mp asked
    obtain rfl := Except.ok.inj outcome
    exact result_prints complete delivery payment

/-- On every page over a surface that any edits lead to, a load prints the text of the order that
the source brings, if it has a delivery and a payment; a load that ends in an error prints its
message. -/
theorem turns_print (edits : List Edit) (zone : Calendar.Zone) (phase : Phase)
    (actions : List Action) :
    ∀ t ∈ (ResultPage.mk zone (Surface.blank.applyAll edits) phase).turns actions,
      (∀ inquiry ∈ t.inquiries, ∀ fetched d p, inquiry.outcome = .ok fetched →
        fetched.order.delivery = some d → fetched.order.payment = some p →
          t.after.surface.print =
            orderText t.before.zone fetched.milliseconds fetched.order d p) ∧
        (t.returned = .error →
          ∃ message, t.message? = some message ∧ t.after.surface.print = errorText message) := by
  have start := Surface.complete_blank.applyAll edits
  exact forall_turns (P := Surface.Complete) (Q := Prints)
    (fun page uid outcome complete => loadTurn_prints complete uid outcome) start actions

/-- A page with remains of all kinds is told an id that is too short and then a good one. -/
theorem order_printed_over_remains :
    let edits : List Edit := [.setVisible loading true, .setVisible result true,
      .setText "orderUid" "old", .append itemsList (.placeholder "old"), .ensure executionTime]
    let page := ResultPage.mk .utc (Surface.blank.applyAll edits) .loading
    let d : Delivery := ⟨"Test", "+972", "2639809", "Kiryat", "Ploshad 15", "Kraiot", "a@b.c"⟩
    let p : Payment := ⟨"b563", none, "USD", "wbpay", 1817, 1637907727, "alpha", 1500, 317, 0⟩
    let item : Item := ⟨9934930, "WBIL", 453, "ab42", "Mascaras", 30, "0", 317, 23892, "Vi", 202⟩
    let order : Order := ⟨"b563feb7b2b84b6test0", "WBIL", "WBIL", some d, some p, [item, item],
      "en", none, "test", "meest", "9", 99, "2021-11-26T06:22:19Z", "1"⟩
    let outcome : FetchOutcome := .ok ⟨order, 42, .server⟩
    ∃ first second,
      page.turns [.load (some "short") outcome, .load (some "b563feb7b2b84b6test0") outcome] =
          [first, second] ∧
        first.after.surface.print = errorText "Order UID must be exactly 20 symbols" ∧
        second.after.surface.print = orderText .utc 42 order d p := by
  intro edits page d p item order outcome
  let actions : List Action :=
    [.load (some "short") outcome, .load (some "b563feb7b2b84b6test0") outcome]
  let first := page.loadTurn (some "short") outcome
  let second := first.after.loadTurn (some "b563feb7b2b84b6test0") outcome
  have prints := turns_print edits .utc .loading actions
  have ⟨_, refused⟩ := prints first (List.mem_cons_self)
  obtain ⟨message, named, text⟩ := refused rfl
  obtain rfl : message = "Order UID must be exactly 20 symbols" := (Option.some.inj named).symm
  have ⟨brought, _⟩ := prints second (List.mem_cons_of_mem _ List.mem_cons_self)
  let inquiry : Inquiry := ⟨first.after.waiting, ⟨"b563feb7b2b84b6test0".toList, rfl, rfl⟩, outcome⟩
  have asked : second.inquiries = [inquiry] := rfl
  have result := brought inquiry (asked ▸ List.mem_singleton_self _) ⟨order, 42, .server⟩ d p
    rfl rfl rfl
  exact ⟨first, second, rfl, text, result⟩

end ResultPage

end OrderLookup.Page
