import OrderLookup.Page.Render
import OrderLookup.Proofs.Page.Surface

/-!
# What rendering writes

The regions of an order, of its delivery and of its payment are apart, so that each region gets the
text of its own field. `textFor?_renderEdits_order`, `_delivery` and `_payment` say which one.
Rendering shows and hides nothing, and leaves the item list holding the entries of the order alone.
-/

namespace OrderLookup.Page

open Edit (textFor? visibleFor?)

variable {α : Type} {zone : Calendar.Zone}

/-! ### The fields of a record -/

theorem mem_fieldEdits {fields : List (FieldView α)} {a : α} {edit : Edit}
    (h : edit ∈ fieldEdits zone fields a) :
    ∃ f ∈ fields, edit = .setText f.region (f.value zone a) := by
  obtain ⟨f, member, rfl⟩ := List.mem_map.mp h
  exact ⟨f, member, rfl⟩

theorem textFor?_fieldEdits_of_not_mem {fields : List (FieldView α)} {id : RegionId}
    (h : id ∉ fields.map (·.region)) (a : α) :
    lastOf? (textFor? id) (fieldEdits zone fields a) = none := by
  apply lastOf?_eq_none
  intro edit member
  obtain ⟨f, present, rfl⟩ := mem_fieldEdits member
  apply if_neg
  rintro rfl
  exact h (List.mem_map_of_mem present)

theorem textFor?_fieldEdits {fields : List (FieldView α)}
    (distinct : (fields.map (·.region)).Nodup) {f : FieldView α} (h : f ∈ fields) (a : α) :
    lastOf? (textFor? f.region) (fieldEdits zone fields a) = some (f.value zone a) := by
  induction fields with
  | nil => cases h
  | cons g fields ih =>
    rw [List.map_cons, List.nodup_cons] at distinct
    rw [fieldEdits, List.map_cons, lastOf?_cons, ← fieldEdits]
    rcases List.mem_cons.mp h with rfl | later
    · rw [textFor?_fieldEdits_of_not_mem distinct.1 a]
      simp [textFor?]
    · rw [ih distinct.2 later]
      rfl

theorem visibleFor?_fieldEdits (id : RegionId) (fields : List (FieldView α)) (a : α) :
    lastOf? (visibleFor? id) (fieldEdits zone fields a) = none := by
  apply lastOf?_eq_none
  intro edit member
  obtain ⟨f, _, rfl⟩ := mem_fieldEdits member
  rfl

def partEdits (zone : Calendar.Zone) (fields : List (FieldView α)) (part : Option α) : List Edit :=
  (part.map (fieldEdits zone fields)).getD []

theorem textFor?_partEdits {fields : List (FieldView α)}
    (distinct : (fields.map (·.region)).Nodup) {f : FieldView α} (h : f ∈ fields)
    (part : Option α) :
    lastOf? (textFor? f.region) (partEdits zone fields part) = part.map (f.value zone) := by
  cases part with
  | none => rfl
  | some a => exact textFor?_fieldEdits distinct h a

theorem textFor?_partEdits_of_not_mem {fields : List (FieldView α)} {id : RegionId}
    (h : id ∉ fields.map (·.region)) (part : Option α) :
    lastOf? (textFor? id) (partEdits zone fields part) = none := by
  cases part with
  | none => rfl
  | some a => exact textFor?_fieldEdits_of_not_mem h a

theorem visibleFor?_partEdits (id : RegionId) (fields : List (FieldView α)) (part : Option α) :
    lastOf? (visibleFor? id) (partEdits zone fields part) = none := by
  cases part with
  | none => rfl
  | some a => exact visibleFor?_fieldEdits id fields a

/-! ### The items and the time -/

theorem mem_itemEdits {items : List Item} {edit : Edit} (h : edit ∈ itemEdits items) :
    edit = .setText itemsCount (natText items.length) ∨ edit = .clear itemsList ∨
      ∃ entry, edit = .append itemsList entry := by
  simp only [itemEdits, List.mem_cons, List.mem_map] at h
  rcases h with count | clear | ⟨entry, _, rfl⟩
  · exact Or.inl count
  · exact Or.inr (Or.inl clear)
  · exact Or.inr (Or.inr ⟨entry, rfl⟩)

theorem textFor?_itemEdits (id : RegionId) (items : List Item) :
    lastOf? (textFor? id) (itemEdits items) =
      if itemsCount = id then some (natText items.length) else none := by
  have entries : lastOf? (textFor? id)
      (.clear itemsList :: (itemEntries items).map (.append itemsList)) = none := by
    apply lastOf?_eq_none
    intro edit member
    rcases List.mem_cons.mp member with rfl | member
    · rfl
    · obtain ⟨entry, _, rfl⟩ := List.mem_map.mp member
      rfl
  rw [itemEdits, lastOf?_cons, entries]
  rfl

theorem visibleFor?_itemEdits (id : RegionId) (items : List Item) :
    lastOf? (visibleFor? id) (itemEdits items) = none := by
  apply lastOf?_eq_none
  intro edit member
  rcases mem_itemEdits member with rfl | rfl | ⟨entry, rfl⟩ <;> rfl

theorem textFor?_timingEdits (id : RegionId) (ms : Nat) :
    lastOf? (textFor? id) (timingEdits ms) =
      if executionTime = id then some (timingText ms) else none := by
  rw [timingEdits, lastOf?_cons, lastOf?_singleton]
  exact Option.or_none

theorem foldl_append (entries : List Entry) (start : List Entry) :
    (entries.map (Edit.append itemsList)).foldl Edit.entriesAfter start = start ++ entries := by
  induction entries generalizing start with
  | nil => simp
  | cons entry entries ih =>
    rw [List.map_cons, List.foldl_cons, ih]
    simp [Edit.entriesAfter]

/-- The list is rebuilt, whatever it held. -/
theorem foldl_itemEdits (items : List Item) (start : List Entry) :
    (itemEdits items).foldl Edit.entriesAfter start = itemEntries items := by
  rw [itemEdits, List.foldl_cons, List.foldl_cons, foldl_append]
  rfl

theorem foldl_fieldEdits (fields : List (FieldView α)) (a : α) (start : List Entry) :
    (fieldEdits zone fields a).foldl Edit.entriesAfter start = start := by
  induction fields with
  | nil => rfl
  | cons f fields ih => exact ih

theorem foldl_partEdits (fields : List (FieldView α)) (part : Option α) (start : List Entry) :
    (partEdits zone fields part).foldl Edit.entriesAfter start = start := by
  cases part with
  | none => rfl
  | some a => exact foldl_fieldEdits fields a start

/-! ### The whole order -/

variable {order : Order} {ms : Nat}

theorem renderEdits_eq :
    renderEdits zone order ms =
      fieldEdits zone Order.fields order ++ partEdits zone Delivery.fields order.delivery ++
        partEdits zone Payment.fields order.payment ++ itemEdits order.items ++
        timingEdits ms := rfl

theorem order_regions_apart : ∀ id ∈ Order.fields.map (·.region),
    id ∉ Delivery.fields.map (·.region) ∧ id ∉ Payment.fields.map (·.region) ∧ itemsCount ≠ id ∧
      executionTime ≠ id := by decide

theorem delivery_regions_apart : ∀ id ∈ Delivery.fields.map (·.region),
    id ∉ Order.fields.map (·.region) ∧ id ∉ Payment.fields.map (·.region) ∧ itemsCount ≠ id ∧
      executionTime ≠ id := by decide

theorem payment_regions_apart : ∀ id ∈ Payment.fields.map (·.region),
    id ∉ Order.fields.map (·.region) ∧ id ∉ Delivery.fields.map (·.region) ∧ itemsCount ≠ id ∧
      executionTime ≠ id := by decide

/-! What is written and what is labelled are listed apart, with the same regions in the same
order. -/

theorem regions_orderSection :
    orderSection.fields.map (·.1) = Order.fields.map (·.region) := rfl

theorem regions_deliverySection :
    deliverySection.fields.map (·.1) = Delivery.fields.map (·.region) := rfl

theorem regions_paymentSection :
    paymentSection.fields.map (·.1) = Payment.fields.map (·.region) := rfl

def recordRegions : List RegionId :=
  Order.fields.map (·.region) ++ Delivery.fields.map (·.region) ++ Payment.fields.map (·.region)

theorem textFor?_renderEdits_order {f : FieldView Order} (h : f ∈ Order.fields) :
    lastOf? (textFor? f.region) (renderEdits zone order ms) = some (f.value zone order) := by
  obtain ⟨delivery, payment, count, time⟩ := order_regions_apart _ (List.mem_map_of_mem h)
  simp only [renderEdits_eq, lastOf?_append, textFor?_timingEdits, textFor?_itemEdits,
    if_neg count, if_neg time, textFor?_partEdits_of_not_mem delivery,
    textFor?_partEdits_of_not_mem payment, Option.none_or]
  exact textFor?_fieldEdits (by decide) h order

theorem textFor?_renderEdits_delivery {f : FieldView Delivery} (h : f ∈ Delivery.fields) :
    lastOf? (textFor? f.region) (renderEdits zone order ms) =
      order.delivery.map (f.value zone) := by
  obtain ⟨header, payment, count, time⟩ := delivery_regions_apart _ (List.mem_map_of_mem h)
  simp only [renderEdits_eq, lastOf?_append, textFor?_timingEdits, textFor?_itemEdits,
    if_neg count, if_neg time, textFor?_fieldEdits_of_not_mem header,
    textFor?_partEdits_of_not_mem payment, Option.none_or, Option.or_none]
  exact textFor?_partEdits (by decide) h order.delivery

theorem textFor?_renderEdits_payment {f : FieldView Payment} (h : f ∈ Payment.fields) :
    lastOf? (textFor? f.region) (renderEdits zone order ms) = order.payment.map (f.value zone) := by
  obtain ⟨header, delivery, count, time⟩ := payment_regions_apart _ (List.mem_map_of_mem h)
  simp only [renderEdits_eq, lastOf?_append, textFor?_timingEdits, textFor?_itemEdits,
    if_neg count, if_neg time, textFor?_fieldEdits_of_not_mem header,
    textFor?_partEdits_of_not_mem delivery, Option.none_or, Option.or_none]
  exact textFor?_partEdits (by decide) h order.payment

/-- A region of no record keeps its text, but for the number of items and the time. -/
theorem textFor?_renderEdits_other {id : RegionId} (h : id ∉ recordRegions) :
    lastOf? (textFor? id) (renderEdits zone order ms) =
      (if executionTime = id then some (timingText ms) else none).or
        (if itemsCount = id then some (natText order.items.length) else none) := by
  simp only [recordRegions, List.mem_append, not_or] at h
  simp only [renderEdits_eq, lastOf?_append, textFor?_timingEdits, textFor?_itemEdits,
    textFor?_fieldEdits_of_not_mem h.1.1, textFor?_partEdits_of_not_mem h.1.2,
    textFor?_partEdits_of_not_mem h.2, Option.or_none]

theorem visibleFor?_renderEdits (id : RegionId) :
    lastOf? (visibleFor? id) (renderEdits zone order ms) = none := by
  simp only [renderEdits_eq, lastOf?_append, visibleFor?_fieldEdits, visibleFor?_partEdits,
    visibleFor?_itemEdits, Option.or_none]
  rfl

namespace Surface

theorem entries_render (s : Surface) :
    (s.applyAll (renderEdits zone order ms)).entries = itemEntries order.items := by
  rw [entries_applyAll, renderEdits_eq]
  simp only [List.foldl_append, foldl_fieldEdits, foldl_partEdits, foldl_itemEdits]
  rfl

/-- A region that is ensured and then given a text has it. -/
theorem text?_ensure_setText (s : Surface) (id : RegionId) (text : String) :
    (s.applyAll [.ensure id, .setText id text]).text? id = some text := by
  obtain ⟨r, h⟩ := Option.isSome_iff_exists.mp (s.isSome_region?_ensure id)
  change ((s.apply (.ensure id)).apply (.setText id text)).text? id = some text
  rw [text?, region?_apply h]
  simp [textFor?]

theorem text?_render_time (s : Surface) :
    (s.applyAll (renderEdits zone order ms)).text? executionTime = some (timingText ms) := by
  rw [renderEdits_eq, applyAll_append]
  exact text?_ensure_setText _ _ _

end Surface

end OrderLookup.Page
