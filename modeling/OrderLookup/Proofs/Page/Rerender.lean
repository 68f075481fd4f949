import OrderLookup.Proofs.Page.Render

/-!
# Rendering one order over another

Two renderings come to one: that of the later order, with a delivery or a payment that it lacks taken
from the earlier one. `Surface.applyAll_congr` reduces this to what each region is given last, for a
surface is the same if all regions are given the same and none is created. That rendering creates a
region does no harm, because it might as well be created first (`Surface.render_ensured`).
-/

namespace OrderLookup

/-- An order with a delivery or a payment that it lacks taken from another one. -/
def Order.completedBy (order other : Order) : Order :=
  { order with
    delivery := order.delivery.or other.delivery
    payment := order.payment.or other.payment }

theorem Order.completedBy_self (order : Order) : order.completedBy order = order := by
  simp [completedBy]

namespace Page

open Edit (textFor? visibleFor?)

theorem Region.after_cons (r : Region) (id : RegionId) (edit : Edit) (edits : List Edit) :
    (r.after id [edit]).after id edits = r.after id (edit :: edits) := by
  simp only [after, lastOf?_cons edit edits, lastOf?_singleton]
  cases lastOf? (textFor? id) edits <;> cases lastOf? (visibleFor? id) edits <;> rfl

/-- An edit that neither concerns a region nor creates one. -/
structure Edit.Spares (edit : Edit) (id : RegionId) : Prop where
  text : edit.textFor? id = none
  visible : edit.visibleFor? id = none
  creates : ∀ key, edit ≠ .ensure key

namespace Surface

theorem eq_of_parts {s t : Surface} (regions : s.regions = t.regions)
    (entries : s.entries = t.entries) : s = t := by
  cases s
  cases t
  simp only at regions entries
  rw [regions, entries]

/-! ### Edits that create nothing -/

def Knows (s : Surface) (edits : List Edit) : Prop :=
  ∀ id, .ensure id ∈ edits → (s.region? id).isSome = true

theorem regions_apply {s : Surface} {edit : Edit} (known : s.Knows [edit]) :
    (s.apply edit).regions = s.regions.map fun (id, r) => (id, r.after id [edit]) := by
  have same (h : ∀ id, edit.textFor? id = none ∧ edit.visibleFor? id = none) :
      (s.regions.map fun (id, r) => (id, r.after id [edit])) = s.regions := by
    simp [Region.after, lastOf?_singleton, h]
  cases edit with
  | setText key text =>
    apply List.map_congr_left
    rintro ⟨id, r⟩ _
    by_cases own : id = key
    · simp [Region.after, lastOf?_singleton, textFor?, visibleFor?, own]
    · simp [Region.after, lastOf?_singleton, textFor?, visibleFor?, own, Ne.symm own]
  | setVisible key visible =>
    apply List.map_congr_left
    rintro ⟨id, r⟩ _
    by_cases own : id = key
    · simp [Region.after, lastOf?_singleton, textFor?, visibleFor?, own]
    · simp [Region.after, lastOf?_singleton, textFor?, visibleFor?, own, Ne.symm own]
  | clear key =>
    rw [same fun _ => ⟨rfl, rfl⟩, apply]
    split <;> rfl
  | append key entry =>
    rw [same fun _ => ⟨rfl, rfl⟩, apply]
    split <;> rfl
  | ensure key =>
    rw [same fun _ => ⟨rfl, rfl⟩, apply, if_pos (known key (List.mem_singleton.mpr rfl))]

theorem regions_applyAll {s : Surface} {edits : List Edit} (known : s.Knows edits) :
    (s.applyAll edits).regions = s.regions.map fun (id, r) => (id, r.after id edits) := by
  induction edits generalizing s with
  | nil => simp [applyAll, Region.after, lastOf?]
  | cons edit edits ih =>
    have first : s.Knows [edit] := fun id member =>
      known id (List.mem_cons.mpr (Or.inl (List.mem_singleton.mp member)))
    have later : (s.apply edit).Knows edits := fun id member =>
      isSome_region?_applyAll (known id (List.mem_cons_of_mem edit member)) [edit]
    rw [applyAll, List.foldl_cons, ← applyAll, ih later, regions_apply first, List.map_map]
    apply List.map_congr_left
    rintro ⟨id, r⟩ _
    exact congrArg (id, ·) (r.after_cons id edit edits)

/-- Only what each region is given last matters, and what the list is left with. -/
theorem applyAll_congr {s : Surface} {edits other : List Edit} (known : s.Knows edits)
    (known' : s.Knows other)
    (texts : ∀ id, lastOf? (textFor? id) edits = lastOf? (textFor? id) other)
    (visible : ∀ id, lastOf? (visibleFor? id) edits = lastOf? (visibleFor? id) other)
    (entries : edits.foldl Edit.entriesAfter s.entries = other.foldl Edit.entriesAfter s.entries) :
    s.applyAll edits = s.applyAll other := by
  apply eq_of_parts
  · rw [regions_applyAll known, regions_applyAll known']
    simp only [Region.after, texts, visible]
  · rw [entries_applyAll, entries_applyAll, entries]

/-! ### Regions created earlier -/

theorem apply_ensure_of_isSome {s : Surface} {id : RegionId}
    (present : (s.region? id).isSome = true) : s.apply (.ensure id) = s :=
  if_pos present

theorem apply_ensure_of_none {s : Surface} {id : RegionId} (absent : s.region? id = none) :
    s.apply (.ensure id) = s.register id true :=
  if_neg (by rw [absent]; nofun)

theorem apply_register {id : RegionId} {edit : Edit} (spares : edit.Spares id) (s : Surface)
    (visible : Bool) :
    (s.register id visible).apply edit = (s.apply edit).register id visible := by
  have other {key : RegionId} {β : Type} {b : β}
      (none : (if key = id then some b else none) = none) : id ≠ key := by
    rintro rfl
    simp at none
  cases edit with
  | setText key text => simp [apply, modify, register, other spares.text]
  | setVisible key visible => simp [apply, modify, register, other spares.visible]
  | clear key =>
    rw [apply, apply]
    split <;> rfl
  | append key entry =>
    rw [apply, apply]
    split <;> rfl
  | ensure key => exact (spares.creates key rfl).elim

theorem apply_ensure_comm {id : RegionId} {edit : Edit} (spares : edit.Spares id) (s : Surface) :
    (s.apply (.ensure id)).apply edit = (s.apply edit).apply (.ensure id) := by
  cases h : s.region? id with
  | none =>
    rw [apply_ensure_of_none h, apply_ensure_of_none (region?_apply_none h (spares.creates id)),
      apply_register spares]
  | some r =>
    have present : (s.region? id).isSome = true := by rw [h]; rfl
    have kept : ((s.apply edit).region? id).isSome = true :=
      isSome_region?_applyAll present [edit]
    rw [apply_ensure_of_isSome present, apply_ensure_of_isSome kept]

theorem applyAll_ensure_comm {id : RegionId} {edits : List Edit}
    (spares : ∀ edit ∈ edits, edit.Spares id) (s : Surface) :
    (s.apply (.ensure id)).applyAll edits = (s.applyAll edits).apply (.ensure id) := by
  induction edits generalizing s with
  | nil => rfl
  | cons edit edits ih =>
    rw [List.forall_mem_cons] at spares
    calc (s.apply (.ensure id)).applyAll (edit :: edits)
      _ = ((s.apply (.ensure id)).apply edit).applyAll edits := rfl
      _ = ((s.apply edit).apply (.ensure id)).applyAll edits := by rw [apply_ensure_comm spares.1]
      _ = ((s.apply edit).applyAll edits).apply (.ensure id) := ih spares.2 (s.apply edit)

theorem text?_applyAll_map (s : Surface) {id : RegionId} {edits : List Edit}
    (creates : Edit.ensure id ∉ edits) :
    (s.applyAll edits).text? id =
      (s.text? id).map fun before => (lastOf? (textFor? id) edits).getD before := by
  cases h : s.region? id with
  | none => rw [text?, region?_applyAll_none h creates, text?, h]; rfl
  | some r => rw [text?, region?_applyAll h, text?, h]; rfl

end Surface

/-! ### Rendering -/

variable {zone : Calendar.Zone} {order : Order} {ms : Nat}

def contentEdits (zone : Calendar.Zone) (order : Order) : List Edit :=
  fieldEdits zone Order.fields order ++ partEdits zone Delivery.fields order.delivery ++
    partEdits zone Payment.fields order.payment ++ itemEdits order.items

theorem renderEdits_content : renderEdits zone order ms = contentEdits zone order ++ timingEdits ms :=
  rfl

theorem fieldEdits_spare {α : Type} {fields : List (FieldView α)} {id : RegionId}
    (apart : ∀ key ∈ fields.map (·.region), id ≠ key) (a : α) :
    ∀ edit ∈ fieldEdits zone fields a, edit.Spares id := by
  intro edit member
  obtain ⟨f, listed, rfl⟩ := mem_fieldEdits member
  exact ⟨if_neg (Ne.symm (apart _ (List.mem_map_of_mem listed))), rfl, nofun⟩

theorem partEdits_spare {α : Type} {fields : List (FieldView α)} {id : RegionId}
    (apart : ∀ key ∈ fields.map (·.region), id ≠ key) (part : Option α) :
    ∀ edit ∈ partEdits zone fields part, edit.Spares id := by
  cases part with
  | none => exact fun _ member => nomatch member
  | some a => exact fieldEdits_spare apart a

theorem contentEdits_spare : ∀ edit ∈ contentEdits zone order, edit.Spares executionTime := by
  simp only [contentEdits, List.forall_mem_append]
  refine ⟨⟨⟨?_, ?_⟩, ?_⟩, ?_⟩
  · exact fieldEdits_spare (fun key member => (order_regions_apart key member).2.2.2) order
  · exact partEdits_spare (fun key member => (delivery_regions_apart key member).2.2.2) _
  · exact partEdits_spare (fun key member => (payment_regions_apart key member).2.2.2) _
  · intro edit member
    rcases mem_itemEdits member with rfl | rfl | ⟨entry, rfl⟩
    · exact ⟨rfl, rfl, nofun⟩
    · exact ⟨rfl, rfl, nofun⟩
    · exact ⟨rfl, rfl, nofun⟩

/-- Rendering creates no region but that of the time. -/
theorem eq_of_ensure_mem_renderEdits {id : RegionId} (h : .ensure id ∈ renderEdits zone order ms) :
    id = executionTime := by
  rw [renderEdits_content] at h
  rcases List.mem_append.mp h with content | timing
  · exact ((contentEdits_spare _ content).creates id rfl).elim
  · simpa [timingEdits] using timing

theorem value_completedBy (order other : Order) :
    ∀ f ∈ Order.fields, f.value zone (order.completedBy other) = f.value zone order := by
  simp [Order.fields, Order.completedBy]

variable {earlier later : Order} {t₁ t₂ : Nat}

theorem textFor?_rerender (id : RegionId) :
    lastOf? (textFor? id) (renderEdits zone earlier t₁ ++ renderEdits zone later t₂) =
      lastOf? (textFor? id) (renderEdits zone (later.completedBy earlier) t₂) := by
  rw [lastOf?_append]
  by_cases record : id ∈ recordRegions
  · simp only [recordRegions, List.mem_append] at record
    rcases record with (header | delivery) | payment
    · obtain ⟨f, listed, rfl⟩ := List.mem_map.mp header
      simp only [textFor?_renderEdits_order listed, value_completedBy later earlier f listed,
        Option.some_or]
    · obtain ⟨f, listed, rfl⟩ := List.mem_map.mp delivery
      simp only [textFor?_renderEdits_delivery listed, Order.completedBy]
      cases later.delivery <;> rfl
    · obtain ⟨f, listed, rfl⟩ := List.mem_map.mp payment
      simp only [textFor?_renderEdits_payment listed, Order.completedBy]
      cases later.payment <;> rfl
  · simp only [textFor?_renderEdits_other record, Order.completedBy]
    by_cases time : executionTime = id
    · simp [time]
    · by_cases count : itemsCount = id <;> simp [time, count]

namespace Surface

/-- The region of the time may be created first. -/
theorem render_ensured (s : Surface) :
    (s.apply (.ensure executionTime)).render zone order ms = s.render zone order ms := by
  have again : (((s.applyAll (contentEdits zone order)).apply (.ensure executionTime)).apply
      (.ensure executionTime)) = (s.applyAll (contentEdits zone order)).apply
        (.ensure executionTime) :=
    apply_ensure_of_isSome (isSome_region?_ensure _ _)
  rw [render, render, renderEdits_content, applyAll_append, applyAll_append,
    applyAll_ensure_comm contentEdits_spare]
  change ((((s.applyAll (contentEdits zone order)).apply (.ensure executionTime)).apply
    (.ensure executionTime)).apply (.setText executionTime (timingText ms))) = _
  rw [again]
  rfl

theorem knows_renderEdits {s : Surface} (present : (s.region? executionTime).isSome = true) :
    s.Knows (renderEdits zone order ms) := by
  intro id member
  rw [eq_of_ensure_mem_renderEdits member]
  exact present

theorem rerender_of_present {s : Surface} (present : (s.region? executionTime).isSome = true) :
    (s.render zone earlier t₁).render zone later t₂ =
      s.render zone (later.completedBy earlier) t₂ := by
  rw [render, render, render, ← applyAll_append]
  apply applyAll_congr
  · intro id member
    rcases List.mem_append.mp member with first | second
    · exact knows_renderEdits present id first
    · exact knows_renderEdits present id second
  · exact knows_renderEdits present
  · exact textFor?_rerender
  · intro id
    rw [lastOf?_append, visibleFor?_renderEdits, visibleFor?_renderEdits, visibleFor?_renderEdits]
    rfl
  · rw [← entries_applyAll, ← entries_applyAll, applyAll_append, entries_render, entries_render]
    rfl

theorem rerender (s : Surface) (zone : Calendar.Zone) (earlier later : Order) (t₁ t₂ : Nat) :
    (s.render zone earlier t₁).render zone later t₂ =
      s.render zone (later.completedBy earlier) t₂ := by
  -- With the region of the time there from the start, neither side creates a region.
  rw [← render_ensured s, rerender_of_present (isSome_region?_ensure s executionTime),
    render_ensured s]

theorem text?_render (s : Surface) {id : RegionId} (other : id ≠ executionTime) :
    (s.render zone order ms).text? id =
      (s.text? id).map fun before =>
        (lastOf? (textFor? id) (renderEdits zone order ms)).getD before :=
  s.text?_applyAll_map fun member => other (eq_of_ensure_mem_renderEdits member)

end Surface

/-- Rendering an order over another one comes to rendering it alone, with a delivery or a payment that
it lacks taken from the other. So rendering it twice is rendering it once, and an order with both
leaves no trace of what was rendered before. The header, the items and the time are those of the
later order; the delivery and the payment those of the last order that has them. -/
theorem render_over (s : Surface) (zone : Calendar.Zone) (earlier later : Order) (t₁ t₂ : Nat) :
    let shown := (s.render zone earlier t₁).render zone later t₂
    shown = s.render zone (later.completedBy earlier) t₂ ∧
    (s.render zone later t₂).render zone later t₂ = s.render zone later t₂ ∧
    (∀ delivery payment,
      let whole := { later with delivery := some delivery, payment := some payment }
      (s.render zone earlier t₁).render zone whole t₂ = s.render zone whole t₂) ∧
    (∀ f ∈ Order.fields, shown.text? f.region = (s.text? f.region).map fun _ => f.value zone later) ∧
    (∀ f ∈ Delivery.fields, shown.text? f.region = (s.text? f.region).map fun before =>
      ((later.delivery.or earlier.delivery).map (f.value zone)).getD before) ∧
    (∀ f ∈ Payment.fields, shown.text? f.region = (s.text? f.region).map fun before =>
      ((later.payment.or earlier.payment).map (f.value zone)).getD before) ∧
    shown.list itemsList = itemEntries later.items ∧
    shown.text? executionTime = some (timingText t₂) := by
  intro shown
  have once : shown = s.render zone (later.completedBy earlier) t₂ :=
    s.rerender zone earlier later t₁ t₂
  refine ⟨once, ?_, fun delivery payment => ?_, fun f listed => ?_, fun f listed => ?_,
    fun f listed => ?_, ?_, ?_⟩
  · rw [s.rerender, later.completedBy_self]
  · exact s.rerender zone earlier _ t₁ t₂
  · have apart := (order_regions_apart _ (List.mem_map_of_mem listed)).2.2.2
    rw [once, s.text?_render (Ne.symm apart), textFor?_renderEdits_order listed,
      value_completedBy later earlier f listed]
    rfl
  · have apart := (delivery_regions_apart _ (List.mem_map_of_mem listed)).2.2.2
    rw [once, s.text?_render (Ne.symm apart), textFor?_renderEdits_delivery listed]
    rfl
  · have apart := (payment_regions_apart _ (List.mem_map_of_mem listed)).2.2.2
    rw [once, s.text?_render (Ne.symm apart), textFor?_renderEdits_payment listed]
    rfl
  · rw [once]
    exact Surface.entries_render s
  · rw [once]
    exact Surface.text?_render_time s

/-- An order without delivery, payment and items over one that has them. -/
theorem render_over_whole_order :
    let d : Delivery := ⟨"Test", "+972", "2639809", "Kiryat", "Ploshad 15", "Kraiot", "a@b.c"⟩
    let p : Payment := ⟨"b563", none, "USD", "wbpay", 1817, 1637907727, "alpha", 1500, 317, 0⟩
    let item : Item := ⟨9934930, "WBIL", 453, "ab42", "Mascaras", 30, "0", 317, 23892, "Vi", 202⟩
    let earlier : Order := ⟨"b563feb7b2b84b6test0", "WBIL", "WBIL", some d, some p, [item, item],
      "en", none, "test", "meest", "9", 99, "2021-11-26T06:22:19Z", "1"⟩
    let later : Order := ⟨"b563feb7b2b84b6test1", "", "", none, none, [], "", none, "", "", "", 0, "",
      ""⟩
    let shown := (Surface.blank.render .utc earlier 42).render .utc later 7
    shown = Surface.blank.render .utc { later with delivery := some d, payment := some p } 7 ∧
      shown.text? "orderUid" = some "b563feb7b2b84b6test1" ∧
      shown.text? "deliveryName" = some "Test" ∧
      shown.text? "paymentTransaction" = some "b563" ∧
      shown.list itemsList = [.placeholder "No items in order"] := by
  intro d p item earlier later shown
  obtain ⟨once, _, _, header, delivery, payment, list, _⟩ :=
    render_over Surface.blank .utc earlier later 42 7
  have empty {id : RegionId} (listed : id ∈ textRegions) : Surface.blank.text? id = some "" := by
    rw [Surface.text?, Surface.region?_blank_text listed]
    rfl
  have uid := header _ List.mem_cons_self
  have name := delivery _ List.mem_cons_self
  have transaction := payment _ List.mem_cons_self
  rw [empty (by decide)] at uid name transaction
  exact ⟨once, uid, name, transaction, list⟩

end Page

end OrderLookup
