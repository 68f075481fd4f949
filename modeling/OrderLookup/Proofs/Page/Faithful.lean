import OrderLookup.Proofs.Calendar.Display
import OrderLookup.Proofs.Order.Status
import OrderLookup.Proofs.Page.Print

/-!
# The printed page loses nothing

A value may look like a label, a heading or a whole card. But each value ends its line, and at which
line it stands follows from the lines before it, so that the printed text of an order gives back all
that is shown of it (`print_eq_iff`).
-/

namespace OrderLookup

open OrderLookup.Text

/-! ### Orders that look alike -/

def Delivery.texts (d : Delivery) : List String :=
  [d.name, d.phone, d.zip, d.city, d.address, d.region, d.email]

def Payment.texts (p : Payment) : List String :=
  [p.transaction, p.requestId.getD "", p.currency, p.provider, p.bank]

def Item.texts (i : Item) : List String :=
  [i.trackNumber, i.rid, i.name, i.size, i.brand]

def Order.texts (o : Order) : List String :=
  [o.orderUid, o.trackNumber, o.entry, o.locale, o.internalSignature.getD "", o.customerId,
    o.deliveryService, o.shardkey, o.dateCreated, o.oofShard] ++
    o.delivery.toList.flatMap Delivery.texts ++ o.payment.toList.flatMap Payment.texts ++
    o.items.flatMap Item.texts

/-- The payments agree in all fields but the time, which is shown alike, and the request id, which
may be empty in one and absent in the other. -/
structure Payment.LooksLike (zone : Calendar.Zone) (p p' : Payment) : Prop where
  rest : p' = { p with paidAt := p'.paidAt, requestId := p'.requestId }
  paidAt : Calendar.formatEpoch zone (some p.paidAt.toInt) =
    Calendar.formatEpoch zone (some p'.paidAt.toInt)
  requestId : p.requestId.getD "" = p'.requestId.getD ""

/-- The orders agree in all fields but the payment, the date, which is shown alike, and the
signature, which may be empty in one and absent in the other. -/
structure Order.LooksLike (zone : Calendar.Zone) (o o' : Order) : Prop where
  rest : o' = { o with
    payment := o'.payment, dateCreated := o'.dateCreated,
    internalSignature := o'.internalSignature }
  dateCreated : Calendar.formatDate zone o.dateCreated = Calendar.formatDate zone o'.dateCreated
  internalSignature : o.internalSignature.getD "" = o'.internalSignature.getD ""

namespace Page

variable {zone : Calendar.Zone} {ms ms' : Nat} {o o' : Order} {d d' : Delivery} {p p' : Payment}

/-! ### One line for each value -/

theorem labelled_inj {label v w : String} : labelled label v = labelled label w ↔ v = w := by
  simp [labelled]

theorem framed_inj {front v w back : String} : front ++ v ++ back = front ++ w ++ back ↔ v = w := by
  simp

theorem int64Text_inj {y z : Int64} : int64Text y = int64Text z ↔ y = z :=
  ⟨fun same => Int64.toInt_inj.mp (intText_injective same), fun same => same ▸ rfl⟩

theorem deliveryLines_injective (same : deliveryLines d = deliveryLines d') : d = d' := by
  cases d
  cases d'
  simp only [deliveryLines, List.cons.injEq, labelled_inj, and_true] at same
  simpa only [Delivery.mk.injEq] using same

theorem paymentLines_inj : paymentLines zone p = paymentLines zone p' ↔ p.LooksLike zone p' := by
  cases p
  cases p'
  simp only [paymentLines, List.cons.injEq, labelled_inj, int64Text_inj, and_true]
  constructor
  · rintro ⟨transaction, requestId, currency, provider, amount, paidAt, bank, cost, goods, fee⟩
    refine ⟨?_, paidAt, requestId⟩
    simp only [transaction, currency, provider, amount, bank, cost, goods, fee]
  · rintro ⟨rest, paidAt, requestId⟩
    simp only [Payment.mk.injEq] at rest
    simp only [rest, paidAt, requestId, and_self]

theorem orderLines_inj :
    orderLines zone o = orderLines zone o' ∧ o.delivery = o'.delivery ∧ o.items = o'.items ↔
      o.LooksLike zone o' := by
  cases o
  cases o'
  simp only [orderLines, List.cons.injEq, labelled_inj, int64Text_inj, and_true]
  constructor
  · rintro ⟨⟨uid, track, entry, locale, signature, customer, service, shard, sm, date, oof⟩,
      delivery, items⟩
    refine ⟨?_, date, signature⟩
    simp only [uid, track, entry, locale, customer, service, shard, sm, oof, delivery, items]
  · rintro ⟨rest, date, signature⟩
    simp only [Order.mk.injEq] at rest
    simp only [rest, date, signature, and_self]

theorem percent_inj {y z : Int64} : int64Text y ++ "%" = int64Text z ++ "%" ↔ y = z := by
  simp [int64Text_inj]

theorem status_inj {y z : Int64} : statusLabel y.toInt = statusLabel z.toInt ↔ y = z :=
  ⟨fun same => Int64.toInt_inj.mp (statusLabel_injective same), fun same => same ▸ rfl⟩

theorem cardLines_injective {index : Nat} {item item' : Item}
    (same : cardLines index item = cardLines index item') : item = item' := by
  simp only [cardLines, List.cons.injEq, labelled_inj, int64Text_inj, percent_inj, status_inj,
    and_true, true_and] at same
  cases item
  cases item'
  simpa only [Item.mk.injEq] using same

/-! ### Sections -/

theorem length_sectionText (title : String) (lines : List String) :
    (sectionText title lines).length = lines.length + 2 := rfl

theorem sectionText_inj {title title' : String} {lines lines' : List String} :
    sectionText title lines = sectionText title' lines' ↔ title = title' ∧ lines = lines' := by
  simp [sectionText]

/-- Every card has the same number of lines, so that no card can pass for the start of another. -/
theorem length_cardLines (index : Nat) (item : Item) : (cardLines index item).length = 12 := rfl

theorem cards_injective {items items' : List Item} {index : Nat}
    (same : ((items.zipIdx index).flatMap fun (item, index) => cardLines index item) =
      (items'.zipIdx index).flatMap fun (item, index) => cardLines index item) :
    items = items' := by
  induction items generalizing items' index with
  | nil =>
    cases items' with
    | nil => rfl
    | cons item' items' => simp [cardLines] at same
  | cons item items ih =>
    cases items' with
    | nil => simp [cardLines] at same
    | cons item' items' =>
      rw [List.zipIdx_cons, List.zipIdx_cons, List.flatMap_cons, List.flatMap_cons] at same
      obtain ⟨card, later⟩ := List.append_inj same
        ((length_cardLines index item).trans (length_cardLines index item').symm)
      rw [cardLines_injective card, ih later]

theorem itemsLines_injective {items items' : List Item}
    (same : itemsLines items = itemsLines items') : items = items' := by
  unfold itemsLines at same
  split at same <;> split at same
  · next none none' => rw [none, none']
  · next none some =>
    obtain ⟨item, later, rfl⟩ := List.exists_cons_of_ne_nil some
    simp [cardLines] at same
  · next some none =>
    obtain ⟨item, later, rfl⟩ := List.exists_cons_of_ne_nil some
    simp [cardLines] at same
  · exact cards_injective same

def pageLines (zone : Calendar.Zone) (ms : Nat) (o : Order) (d : Delivery) (p : Payment) :
    List String :=
  timingText ms ::
    (sectionText "Order" (orderLines zone o) ++ sectionText "Delivery" (deliveryLines d) ++
      sectionText "Payment" (paymentLines zone p) ++
      sectionText ("Items (" ++ natText o.items.length ++ ")") (itemsLines o.items))

theorem orderText_eq :
    orderText zone ms o d p = String.join ((pageLines zone ms o d p).map (· ++ "\n")) := rfl

theorem pageLines_inj :
    pageLines zone ms o d p = pageLines zone ms' o' d' p' ↔
      ms = ms' ∧ orderLines zone o = orderLines zone o' ∧ d = d' ∧
        paymentLines zone p = paymentLines zone p' ∧ o.items = o'.items := by
  have lengths (o : Order) (d : Delivery) (p : Payment) : (orderLines zone o).length = 11 ∧
      (deliveryLines d).length = 7 ∧ (paymentLines zone p).length = 10 := ⟨rfl, rfl, rfl⟩
  have orders := (lengths o d p).1.trans (lengths o' d' p').1.symm
  have deliveries := (lengths o d p).2.1.trans (lengths o' d' p').2.1.symm
  have payments := (lengths o d p).2.2.trans (lengths o' d' p').2.2.symm
  constructor
  · intro same
    obtain ⟨timing, sections⟩ := List.cons.inj same
    -- Only the items are of no fixed number of lines, and they come last.
    obtain ⟨front, items⟩ := List.append_inj sections
      (by simp only [List.length_append, length_sectionText, orders, deliveries, payments])
    obtain ⟨front, payment⟩ := List.append_inj front
      (by simp only [List.length_append, length_sectionText, orders, deliveries])
    obtain ⟨order, delivery⟩ := List.append_inj front (by simp only [length_sectionText, orders])
    exact ⟨natText_injective (framed_inj.mp timing), (sectionText_inj.mp order).2,
      deliveryLines_injective (sectionText_inj.mp delivery).2, (sectionText_inj.mp payment).2,
      itemsLines_injective (sectionText_inj.mp items).2⟩
  · rintro ⟨rfl, order, rfl, payment, items⟩
    rw [pageLines, pageLines, order, payment, items]

/-! ### No value has a second line -/

theorem oneLine_int64Text (z : Int64) : OneLine (int64Text z) := oneLine_intText z.toInt

theorem oneLine_labelled {label value : String} (one : OneLine label) :
    OneLine (labelled label value) ↔ OneLine value := by
  have colon : OneLine ": " := by decide
  simp only [labelled, oneLine_append, one, colon, true_and]

theorem oneLine_orderLines (one : ∀ text ∈ o.texts, OneLine text) :
    ∀ line ∈ orderLines zone o, OneLine line := by
  simp only [Order.texts, List.forall_mem_append, List.forall_mem_cons] at one
  simp (disch := decide) only [orderLines, List.forall_mem_cons, oneLine_labelled,
    oneLine_int64Text, Calendar.oneLine_formatDate, one, true_and]
  exact List.forall_mem_nil _

theorem oneLine_deliveryLines (one : ∀ text ∈ d.texts, OneLine text) :
    ∀ line ∈ deliveryLines d, OneLine line := by
  simp only [Delivery.texts, List.forall_mem_cons] at one
  simp (disch := decide) only [deliveryLines, List.forall_mem_cons, oneLine_labelled, one,
    true_and]
  exact List.forall_mem_nil _

theorem oneLine_paymentLines (one : ∀ text ∈ p.texts, OneLine text) :
    ∀ line ∈ paymentLines zone p, OneLine line := by
  simp only [Payment.texts, List.forall_mem_cons] at one
  simp (disch := decide) only [paymentLines, List.forall_mem_cons, oneLine_labelled,
    oneLine_int64Text, Calendar.oneLine_formatEpoch, one, true_and]
  exact List.forall_mem_nil _

theorem oneLine_cardLines {item : Item} (one : ∀ text ∈ item.texts, OneLine text) (index : Nat) :
    ∀ line ∈ cardLines index item, OneLine line := by
  have title : OneLine ("-- Item " ++ natText (index + 1) ++ " --") := by
    have marks : OneLine "-- Item " ∧ OneLine " --" := by decide
    simp only [oneLine_append, oneLine_natText, marks, and_self]
  have percent : OneLine (int64Text item.sale ++ "%") := by
    have mark : OneLine "%" := by decide
    simp only [oneLine_append, oneLine_int64Text, mark, and_self]
  simp only [Item.texts, List.forall_mem_cons] at one
  simp (disch := decide) only [cardLines, List.forall_mem_cons, oneLine_labelled,
    oneLine_int64Text, oneLine_statusLabel, title, percent, one, true_and]
  exact List.forall_mem_nil _

theorem oneLine_itemsLines {items : List Item}
    (one : ∀ item ∈ items, ∀ text ∈ item.texts, OneLine text) :
    ∀ line ∈ itemsLines items, OneLine line := by
  unfold itemsLines
  split
  · decide
  · intro line member
    obtain ⟨⟨item, index⟩, listed, inCard⟩ := List.mem_flatMap.mp member
    have item_mem : item ∈ items := (List.mem_zipIdx' listed).2 ▸ List.getElem_mem _
    exact oneLine_cardLines (one item item_mem) index line inCard

theorem oneLine_sectionText {title : String} {lines : List String} (one : OneLine title)
    (each : ∀ line ∈ lines, OneLine line) : ∀ line ∈ sectionText title lines, OneLine line := by
  have marks : OneLine "" ∧ OneLine "== " ∧ OneLine " ==" := by decide
  simp only [sectionText, List.forall_mem_cons, oneLine_append, marks, one, true_and]
  exact each

theorem oneLine_pageLines (delivery : o.delivery = some d) (payment : o.payment = some p)
    (one : ∀ text ∈ o.texts, OneLine text) : ∀ line ∈ pageLines zone ms o d p, OneLine line := by
  have header : ∀ line ∈ orderLines zone o, OneLine line := oneLine_orderLines one
  simp only [Order.texts, delivery, payment, Option.toList_some, List.flatMap_singleton,
    List.forall_mem_append] at one
  obtain ⟨⟨⟨_, ofDelivery⟩, ofPayment⟩, ofItems⟩ := one
  have items : ∀ item ∈ o.items, ∀ text ∈ item.texts, OneLine text := fun item listed text inItem =>
    ofItems text (List.mem_flatMap.mpr ⟨item, listed, inItem⟩)
  have marks : OneLine "Request completed in " ∧ OneLine " ms" ∧ OneLine "Items (" ∧
      OneLine ")" := by decide
  have timing : OneLine (timingText ms) := by
    unfold timingText
    exact oneLine_append.mpr ⟨oneLine_append.mpr ⟨marks.1, oneLine_natText ms⟩, marks.2.1⟩
  have count : OneLine ("Items (" ++ natText o.items.length ++ ")") := by
    simp only [oneLine_append, oneLine_natText, marks, and_self]
  rw [pageLines, List.forall_mem_cons, List.forall_mem_append, List.forall_mem_append,
    List.forall_mem_append]
  exact ⟨timing, ⟨⟨oneLine_sectionText (by decide) header,
    oneLine_sectionText (by decide) (oneLine_deliveryLines ofDelivery)⟩,
    oneLine_sectionText (by decide) (oneLine_paymentLines ofPayment)⟩,
    oneLine_sectionText count (oneLine_itemsLines items)⟩

/-! ### Printed pages -/

def shownPage (zone : Calendar.Zone) (o : Order) (ms : Nat) : Surface :=
  (Surface.blank.render zone o ms).apply (.setVisible result true)

theorem print_shownPage (delivery : o.delivery = some d) (payment : o.payment = some p) :
    (shownPage zone o ms).print = orderText zone ms o d p := by
  have visible {mode : RegionId} (member : mode ∈ modes) :
      (shownPage zone o ms).isVisible mode = decide (result = mode) := by
    have edits : shownPage zone o ms =
        Surface.blank.applyAll (renderEdits zone o ms ++ [.setVisible result true]) := by
      rw [Surface.applyAll_append]
      rfl
    rw [edits, Surface.isVisible_applyAll (Surface.complete_blank.mode member), lastOf?_append,
      visibleFor?_renderEdits, Option.or_none, Surface.isVisible, Surface.region?_blank_mode member]
    rcases ResultPage.mem_modes member with rfl | rfl | rfl <;> rfl
  have holds : (Surface.blank.render zone o ms).Holds zone ms o d p :=
    Surface.holds_render Surface.complete_blank delivery payment
  exact (holds.setVisible result true).print (visible (by decide)) (visible (by decide))
    (visible (by decide))

theorem print_eq_iff (zone : Calendar.Zone) (ms ms' : Nat) {o o' : Order} {d d' : Delivery}
    {p p' : Payment} (delivery : o.delivery = some d) (delivery' : o'.delivery = some d')
    (payment : o.payment = some p) (payment' : o'.payment = some p')
    (one : ∀ text ∈ o.texts, OneLine text) (one' : ∀ text ∈ o'.texts, OneLine text) :
    (shownPage zone o ms).print = (shownPage zone o' ms').print ↔
      ms = ms' ∧ o.items = o'.items ∧ o.LooksLike zone o' ∧ p.LooksLike zone p' := by
  rw [print_shownPage delivery payment, print_shownPage delivery' payment', orderText_eq,
    orderText_eq]
  have lines : String.join ((pageLines zone ms o d p).map (· ++ "\n")) =
      String.join ((pageLines zone ms' o' d' p').map (· ++ "\n")) ↔
        pageLines zone ms o d p = pageLines zone ms' o' d' p' :=
    ⟨join_lines_injective (oneLine_pageLines delivery payment one)
      (oneLine_pageLines delivery' payment' one'), fun same => same ▸ rfl⟩
  rw [lines, pageLines_inj, paymentLines_inj, ← orderLines_inj, delivery, delivery',
    Option.some.injEq]
  constructor
  · rintro ⟨time, order, delivery, payment, items⟩
    exact ⟨time, items, ⟨order, delivery, items⟩, payment⟩
  · rintro ⟨time, items, ⟨order, delivery, _⟩, payment⟩
    exact ⟨time, order, delivery, payment, items⟩

/-- Values that look like other lines, in two orders that look alike and in one of two items. -/
theorem print_lookalikes :
    let d : Delivery := ⟨"== Items (0) ==", "", "-- Item 1 --", "a: b", "  price: 1", ": ", "x"⟩
    let paid (requestId : Option String) : Payment :=
      ⟨"b563", requestId, "USD", "wbpay", 1817, 1637907727, "alpha", 1500, 317, 0⟩
    let item (status : Int64) : Item :=
      ⟨9934930, "-- Item 2 --", 453, "ab42", "Mascaras", 30, "0", 317, 23892, "Vi", status⟩
    let order (date : String) (absent : Option String) (items : List Item) : Order :=
      ⟨"b563feb7b2b84b6test0", "No items in order", "WBIL", some d, some (paid absent), items, "en",
        absent, "test", "meest", "9", 99, date, "1"⟩
    let first := order "2021-11-26T06:22:19Z" none [item 202]
    let second := order "2021-11-26 09:22:19+03:00" (some "") [item 202]
    let third := order "2021-11-26T06:22:19Z" none [item 202, item 202]
    (∀ o ∈ [first, second, third], ∀ text ∈ o.texts, OneLine text) ∧ first ≠ second ∧
      (shownPage .utc first 42).print = (shownPage .utc second 42).print ∧
      (shownPage .utc first 42).print ≠ (shownPage .utc third 42).print := by
  intro d paid item order first second third
  have one : ∀ o ∈ [first, second, third], ∀ text ∈ o.texts, OneLine text := by decide
  have one₁ := one first (by simp)
  have one₂ := one second (by simp)
  have one₃ := one third (by simp)
  have paid₁ : first.payment = some (paid none) := rfl
  have paid₂ : second.payment = some (paid (some "")) := rfl
  have paid₃ : third.payment = some (paid none) := rfl
  have alike := print_eq_iff .utc 42 42 rfl rfl paid₁ paid₂ one₁ one₂
  have apart := print_eq_iff .utc 42 42 rfl rfl paid₁ paid₃ one₁ one₃
  refine ⟨one, by decide, alike.mpr ⟨rfl, rfl, ?_, ⟨rfl, rfl, rfl⟩⟩, fun same => ?_⟩
  · exact ⟨rfl, by decide +kernel, rfl⟩
  · exact absurd (apart.mp same).2.1 (by decide)

end Page

end OrderLookup
