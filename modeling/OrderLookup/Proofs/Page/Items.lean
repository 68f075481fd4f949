import OrderLookup.Proofs.Page.Faithful

/-!
# The item list shows the items

Listing items replaces what the list held by one card an item, in order, or by the placeholder if
there is none. A card gives its item back, and so does the whole list (`items_faithful`).
-/

namespace OrderLookup.Page

variable {items items' : List Item}

/-! ### Cards -/

theorem title_inj {i j : Nat} :
    "Item " ++ natText (i + 1) = "Item " ++ natText (j + 1) ↔ i = j := by
  constructor
  · intro same
    have next := natText_injective (String.append_right_inj _ |>.mp same)
    omega
  · rintro rfl
    rfl

theorem itemCard_inj {i j : Nat} {item item' : Item} :
    itemCard i item = itemCard j item' ↔ i = j ∧ item = item' := by
  constructor
  · intro same
    simp only [itemCard, Card.mk.injEq, List.cons.injEq, Prod.mk.injEq, title_inj, int64Text_inj,
      percent_inj, status_inj, true_and, and_true] at same
    cases item
    cases item'
    simpa only [Item.mk.injEq] using same
  · rintro ⟨rfl, rfl⟩
    rfl

/-! ### Entries -/

theorem itemEntries_of_ne_nil (filled : items ≠ []) :
    itemEntries items = items.mapIdx fun index item => .card (itemCard index item) := by
  unfold itemEntries
  rw [if_neg (by simpa using filled)]

theorem getElem?_itemEntries (filled : items ≠ []) (i : Nat) :
    (itemEntries items)[i]? = items[i]?.map fun item => .card (itemCard i item) := by
  rw [itemEntries_of_ne_nil filled, List.getElem?_mapIdx]

theorem placeholder_not_mem (filled : items ≠ []) (text : String) :
    .placeholder text ∉ itemEntries items := by
  intro member
  obtain ⟨i, found⟩ := List.mem_iff_getElem?.mp member
  rw [getElem?_itemEntries filled, Option.map_eq_some_iff] at found
  obtain ⟨item, _, card⟩ := found
  cases card

theorem itemEntries_eq_placeholder_iff :
    itemEntries items = [.placeholder "No items in order"] ↔ items = [] := by
  constructor
  · intro same
    by_contra filled
    apply placeholder_not_mem filled "No items in order"
    rw [same]
    exact List.mem_singleton.mpr rfl
  · rintro rfl
    rfl

theorem itemEntries_injective (same : itemEntries items = itemEntries items') : items = items' := by
  by_cases none : items = []
  · rw [itemEntries_eq_placeholder_iff.mpr none] at same
    rw [none, itemEntries_eq_placeholder_iff.mp same.symm]
  · have filled : items' ≠ [] := by
      rintro rfl
      exact none (itemEntries_eq_placeholder_iff.mp same)
    -- The entries at each place tell whether there is an item, and which.
    apply List.ext_getElem?
    intro i
    have place : (itemEntries items)[i]? = (itemEntries items')[i]? := by rw [same]
    rw [getElem?_itemEntries none, getElem?_itemEntries filled] at place
    refine Option.map_injective ?_ place
    intro item item' card
    exact (itemCard_inj.mp (Entry.card.inj card)).2

/-! ### Surfaces -/

namespace Surface

theorem list_items (s : Surface) (items : List Item) :
    (s.applyAll (itemEdits items)).list itemsList = itemEntries items := by
  rw [list, if_pos rfl, entries_applyAll, foldl_itemEdits]

theorem text?_items {s : Surface} (complete : s.Complete) (items : List Item) :
    (s.applyAll (itemEdits items)).text? itemsCount = some (natText items.length) := by
  rw [text?_applyAll (complete.text (by decide)), textFor?_itemEdits, if_pos rfl, Option.some_or]

end Surface

/-- Listing items on any reachable surface leaves their number and a card for each of them in order,
or the placeholder just if there is none. From the list the items can be told, all their fields
included, because no two cards, and no two states, look alike. -/
theorem items_faithful (edits : List Edit) (items : List Item) :
    let shown := (Surface.blank.applyAll edits).applyAll (itemEdits items)
    shown.text? itemsCount = some (natText items.length) ∧
    (shown.list itemsList = [.placeholder "No items in order"] ↔ items = []) ∧
    (items ≠ [] → (shown.list itemsList).length = items.length ∧
      ∀ i item, items[i]? = some item →
        (shown.list itemsList)[i]? = some (.card (itemCard i item)) ∧
          (itemCard i item).title = "Item " ++ natText (i + 1)) ∧
    (∀ edits' items',
      shown.list itemsList =
          ((Surface.blank.applyAll edits').applyAll (itemEdits items')).list itemsList ↔
        items = items') ∧
    (Function.Injective fun code : Int64 => statusLabel code.toInt) ∧
    ∀ i j item item', itemCard i item = itemCard j item' ↔ i = j ∧ item = item' := by
  intro shown
  have list : shown.list itemsList = itemEntries items := Surface.list_items _ items
  rw [list]
  refine ⟨Surface.text?_items (Surface.complete_blank.applyAll edits) items,
    itemEntries_eq_placeholder_iff, fun filled => ⟨?_, fun i item found => ?_⟩,
    fun edits' items' => ?_, fun _ _ => status_inj.mp, fun i j item item' => itemCard_inj⟩
  · rw [itemEntries_of_ne_nil filled, List.length_mapIdx]
  · rw [getElem?_itemEntries filled, found]
    exact ⟨rfl, rfl⟩
  · rw [Surface.list_items]
    constructor
    · exact itemEntries_injective
    · rintro rfl
      rfl

/-- Items over a list that was left with a placeholder. A name that looks like a heading and a
status that has no word take nothing from what the cards tell. -/
theorem items_faithful_lookalikes :
    let item (name : String) (status : Int64) : Item :=
      ⟨-9223372036854775808, "", 453, "ab\n42", name, -30, "0", 317, 23892, "Vi", status⟩
    let stale : List Edit := [.append itemsList (.placeholder "No items in order"),
      .setText itemsCount "7"]
    let listed (items : List Item) : Surface :=
      (Surface.blank.applyAll stale).applyAll (itemEdits items)
    let first := item "Approved\n-- Item 2 --" 202
    (listed [first, item "" 201]).text? itemsCount = some "2" ∧
      ((listed [first, item "" 201]).list itemsList)[1]? = some (.card (itemCard 1 (item "" 201))) ∧
      (listed [first, item "" 201]).list itemsList ≠ (listed [first, item "" 200]).list itemsList ∧
      (listed []).list itemsList = [.placeholder "No items in order"] := by
  intro item stale listed first
  obtain ⟨count, _, cards, told, _⟩ := items_faithful stale [first, item "" 201]
  obtain ⟨_, empty, _⟩ := items_faithful stale []
  have two : natText 2 = "2" := by decide +kernel
  refine ⟨count.trans (congrArg some two), ?_, fun same => ?_, empty.mpr rfl⟩
  · exact ((cards (by simp)).2 1 (item "" 201) rfl).1
  · exact absurd ((told stale [first, item "" 200]).mp same) (by decide)

end OrderLookup.Page
