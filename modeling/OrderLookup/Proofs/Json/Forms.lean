import OrderLookup.Proofs.Json.Document
import OrderLookup.Proofs.Json.Written

/-!
# The two forms of records

A record may stand in a document as the array of its contents or as an object of them
(`Slot.Written`). Both are read as the same record, and an array of another length as none.
-/

namespace OrderLookup.Json

namespace Meaning

variable {β : Type} {m m' : Meaning β} {v : Value}

theorem nullable_mono (means : ∀ v b, m v b → m' v b) {content : Option β}
    (h : nullable m v content) : nullable m' v content := by
  cases content with
  | none => exact h
  | some b => exact ⟨h.1, means v b h.2⟩

theorem listOrNull_mono (means : ∀ v b, m v b → m' v b) {bs : List β} (h : listOrNull m v bs) :
    listOrNull m' v bs := by
  rcases h with null | ⟨vs, rfl, each⟩
  · exact Or.inl null
  · exact Or.inr ⟨vs, rfl, each.imp means⟩

/-- Every element of an array stands for something. -/
theorem listOrNull_element {vs : List Value} {bs : List β} (h : listOrNull m (.array vs) bs)
    (listed : v ∈ vs) : ∃ b, m v b := by
  rcases h with ⟨null, _⟩ | ⟨_, same, each⟩
  · cases null
  · cases same
    rw [← List.map_fst_zip each.length_eq.le, List.mem_map] at listed
    obtain ⟨⟨v, b⟩, entry, rfl⟩ := listed
    exact ⟨b, List.forall₂_zip each entry⟩

end Meaning

namespace Slot

variable {α : Type} {slots : List (Slot α)} {blank a : α}

def stands (slot : Slot α) : Meaning α := fun v a =>
  slot.meaning v (slot.get a)

/-- The values that a record is written as, if its contents are written as `fills` has it: an array
in the order of the slots, or an object in any order. An object may do without slots that may be
left out and are as in `blank`. -/
inductive Written (slots : List (Slot α)) (blank : α) (fills : Slot α → Meaning α) (a : α) :
    Value → Prop
  | array {vs : List Value} (values : List.Forall₂ (fun slot v => fills slot v a) slots vs) :
    Written slots blank fills a (.array vs)
  | object {part : List (Slot α)} {vs : List Value} {ms : Members} (sublist : part.Sublist slots)
    (left : ∀ slot ∈ slots, slot ∈ part ∨ slot.optional = true ∧ slot.get a = slot.get blank)
    (values : List.Forall₂ (fun slot v => fills slot v a) part vs)
    (order : ms.Perm (named part vs)) :
    Written slots blank fills a (.object ms)

theorem lists_of_values {vs : List Value}
    (values : List.Forall₂ (fun slot v => slot.stands v a) slots vs) :
    Lists blank slots vs a := by
  induction values with
  | nil => rfl
  | cons first _ ih => exact ⟨first, ih⟩

theorem Describes.perm {ms ms' : Members} (h : Describes slots blank ms a) (order : ms'.Perm ms) :
    Describes slots blank ms' a := by
  have rearranged : Rearranged slots ms ms' :=
    ⟨[], ms, nofun, List.forall₂_same.mpr fun _ _ => ⟨rfl, fun _ _ _ _ => Iff.rfl⟩, order⟩
  exact rearranged.describes.mpr h

theorem values_of_fills {fills : Slot α → Meaning α}
    (means : ∀ slot ∈ slots, ∀ v, fills slot v a → slot.stands v a) {part : List (Slot α)}
    (subset : part ⊆ slots) {vs : List Value}
    (values : List.Forall₂ (fun slot v => fills slot v a) part vs) :
    List.Forall₂ (fun slot v => slot.stands v a) part vs := by
  rw [List.forall₂_iff_zip] at values ⊢
  refine ⟨values.1, fun entry => ?_⟩
  exact means _ (subset (List.of_mem_zip entry).1) _ (values.2 entry)

theorem Written.record (independent : Independent slots) {fills : Slot α → Meaning α}
    (means : ∀ slot ∈ slots, ∀ v, fills slot v a → slot.stands v a) {v : Value}
    (h : Written slots blank fills a v) : record slots blank v a := by
  cases h with
  | array values =>
    exact lists_of_values (values_of_fills means (List.Subset.refl slots) values)
  | object sublist left values order =>
    have described := describes_named independent sublist left
      (values_of_fills means sublist.subset values)
    exact described.perm order

/-! ### Arrays of another length -/

theorem Lists.length_eq (required : ∀ slot ∈ slots.getLast?, slot.optional = false)
    {vs : List Value} (h : Lists blank slots vs a) : vs.length = slots.length := by
  induction slots generalizing vs with
  | nil =>
    obtain rfl : vs = [] := h
    rfl
  | cons slot later ih =>
    have last : ∀ slot ∈ later.getLast?, slot.optional = false := by
      intro other final
      refine required other ?_
      rw [List.getLast?_cons, Option.mem_def.mp final]
      rfl
    cases vs with
    | cons v vs => rw [List.length_cons, List.length_cons, ih last h.2]
    | nil =>
      -- The slots to come have no values either, so that this one is the last.
      obtain ⟨optional, _, lists⟩ := h
      have none : later = [] := List.eq_nil_of_length_eq_zero (ih last lists).symm
      subst none
      rw [required slot rfl] at optional
      cases optional

theorem nullable_length_eq (required : ∀ slot ∈ slots.getLast?, slot.optional = false)
    {vs : List Value} {content : Option α}
    (h : Meaning.nullable (Slot.record slots blank) (.array vs) content) :
    vs.length = slots.length := by
  cases content with
  | none => cases h
  | some a => exact Lists.length_eq required h.2

/-! ### What a record holds -/

inductive Holds (slots : List (Slot α)) (key : String) (v : Value) : Value → Prop
  | member {ms : Members} (h : (some key, v) ∈ ms) : Holds slots key v (.object ms)
  | position {vs : List Value} (h : (some key, v) ∈ named slots vs) : Holds slots key v (.array vs)

theorem Lists.means {vs : List Value} (h : Lists blank slots vs a) {slot : Slot α} {v : Value}
    (entry : (slot, v) ∈ slots.zip vs) : slot.stands v a := by
  induction slots generalizing vs with
  | nil => cases entry
  | cons first later ih =>
    cases vs with
    | nil => cases entry
    | cons w vs =>
      rw [List.zip_cons_cons, List.mem_cons, Prod.mk.injEq] at entry
      rcases entry with ⟨rfl, rfl⟩ | entry
      · exact h.1
      · exact ih h.2 entry

theorem Holds.means (independent : Independent slots) {slot : Slot α} (listed : slot ∈ slots)
    {v w : Value} (h : Holds slots slot.key w v) (means : Slot.record slots blank v a) :
    slot.stands w a := by
  cases h with
  | member found => exact (means.content listed).1 w found
  | position found =>
    obtain ⟨⟨other, _⟩, entry, same⟩ := List.mem_map.mp found
    obtain ⟨key, rfl⟩ := Prod.mk.inj same
    obtain rfl := independent.eq_of_key (List.of_mem_zip entry).1 listed (Option.some.inj key)
    exact Lists.means means entry

end Slot

end OrderLookup.Json
