import Mathlib.Data.List.DropRight
import OrderLookup.Proofs.Page.Surface

/-!
# What a surface keeps of its edits

A surface reached from the blank one is told by the list of its edits (`Surface.applyAll_blank`): a
region holds what it was last given in its life, which an edit before its creation is no part of, and
the list holds what was appended since it was last cleared.
-/

namespace OrderLookup.Page

def staticRegions : List RegionId := [
  "orderUid", "trackNumber", "entry", "locale", "internalSignature", "customerId",
  "deliveryService", "shardkey", "smId", "dateCreated", "oofShard",
  "deliveryName", "deliveryPhone", "deliveryZip", "deliveryCity", "deliveryAddress",
  "deliveryRegion", "deliveryEmail",
  "paymentTransaction", "paymentRequestId", "paymentCurrency", "paymentProvider", "paymentAmount",
  "paymentDt", "paymentBank", "paymentDeliveryCost", "paymentGoodsTotal", "paymentCustomFee",
  "itemsCount", "errorMessage", "loading", "error", "result"]

theorem staticRegions_eq : staticRegions = textRegions ++ modes := rfl

/-- The edits in the life of a region: all if the blank surface has it, else those after the first
that ensures it. -/
inductive Life (id : RegionId) (edits : List Edit) : List Edit → Prop
  | always (static : id ∈ staticRegions) : Life id edits edits
  | created {before life : List Edit} (absent : id ∉ staticRegions)
    (first : Edit.ensure id ∉ before) (split : edits = before ++ .ensure id :: life) :
    Life id edits life

/-- A region at the start of its life: without a text, and visible unless it is a mode. -/
def Region.fresh (id : RegionId) : Region where
  text := ""
  visible := decide (id ∉ ["loading", "error", "result"])

theorem Region.fresh_eq (id : RegionId) : Region.fresh id = ⟨"", decide (id ∉ modes)⟩ := rfl

def Edit.entryFor? (id : RegionId) : Edit → Option Entry
  | .append key entry => if key = id then some entry else none
  | _ => none

def sinceClear (edits : List Edit) : List Edit :=
  edits.rtakeWhile (· != .clear itemsList)

namespace Surface

def answers (s : Surface) : List Edit → List (Edit × Bool)
  | [] => []
  | edit :: later => (edit, s.creates edit) :: (s.apply edit).answers later

/-! ### Regions -/

theorem region?_blank_eq_none_iff {id : RegionId} :
    blank.region? id = none ↔ id ∉ staticRegions := by
  rw [staticRegions_eq, region?_blank, List.mem_append, not_or]
  by_cases text : id ∈ textRegions
  · simp [text]
  · by_cases mode : id ∈ modes <;> simp [text, mode]

theorem region?_ensure_of_none {s : Surface} {id : RegionId} (h : s.region? id = none) :
    (s.apply (.ensure id)).region? id = some ⟨"", true⟩ := by
  have absent : ¬(s.region? id).isSome = true := by simp [h]
  rw [apply, if_neg absent, region?_register, h, if_pos rfl]
  rfl

theorem region?_blank_static {id : RegionId} (static : id ∈ staticRegions) :
    blank.region? id = some (.fresh id) := by
  rw [staticRegions_eq] at static
  rcases List.mem_append.mp static with text | mode
  · have other : id ∉ modes := fun mode => modes_not_text id mode text
    rw [region?_blank_text text, Region.fresh_eq, decide_eq_true other]
  · have shown : decide (id ∉ modes) = false := decide_eq_false fun other => other mode
    rw [region?_blank_mode mode, Region.fresh_eq, shown]

theorem region?_of_life {id : RegionId} {edits life : List Edit} (h : Life id edits life) :
    (blank.applyAll edits).region? id = some ((Region.fresh id).after id life) := by
  cases h with
  | always static => exact region?_applyAll (region?_blank_static static) edits
  | @created before _ absent first split =>
    have none := region?_applyAll_none (region?_blank_eq_none_iff.mpr absent) first
    have visible : decide (id ∉ modes) = true :=
      decide_eq_true fun mode => absent (List.mem_append_right textRegions mode)
    rw [split, applyAll_append, Region.fresh_eq, visible]
    exact region?_applyAll (region?_ensure_of_none none) life

theorem exists_life {id : RegionId} {edits : List Edit}
    (h : id ∈ staticRegions ∨ Edit.ensure id ∈ edits) : ∃ life, Life id edits life := by
  by_cases static : id ∈ staticRegions
  · exact ⟨edits, .always static⟩
  · obtain ⟨before, life, split, first⟩ :=
      List.eq_append_cons_of_mem (h.resolve_left static)
    exact ⟨life, .created static first split⟩

theorem isSome_region?_iff {id : RegionId} {edits : List Edit} :
    ((blank.applyAll edits).region? id).isSome = true ↔
      id ∈ staticRegions ∨ Edit.ensure id ∈ edits := by
  constructor
  · intro some
    by_contra neither
    obtain ⟨absent, never⟩ := not_or.mp neither
    rw [region?_applyAll_none (region?_blank_eq_none_iff.mpr absent) never] at some
    cases some
  · intro h
    obtain ⟨life, lived⟩ := exists_life h
    rw [region?_of_life lived]
    rfl

theorem region?_eq_some_iff {id : RegionId} {edits : List Edit} {r : Region} :
    (blank.applyAll edits).region? id = some r ↔
      ∃ life, Life id edits life ∧ r = (Region.fresh id).after id life := by
  constructor
  · intro found
    obtain ⟨life, lived⟩ := exists_life (isSome_region?_iff.mp (Option.isSome_of_eq_some found))
    rw [region?_of_life lived] at found
    exact ⟨life, lived, (Option.some.inj found).symm⟩
  · rintro ⟨life, lived, rfl⟩
    exact region?_of_life lived

/-! ### Answers -/

/-- A region that is there is not created again, and one that is not is created once. -/
theorem count_answers (s : Surface) (id : RegionId) (edits : List Edit) :
    (s.answers edits).count (.ensure id, true) =
      if s.region? id = none ∧ Edit.ensure id ∈ edits then 1 else 0 := by
  induction edits generalizing s with
  | nil => simp [answers]
  | cons edit later ih =>
    rw [answers, List.count_cons, ih]
    by_cases own : edit = .ensure id
    · subst own
      cases h : s.region? id with
      | none => simp [creates, h, region?_ensure_of_none h]
      | some r => simp [creates, h, region?_apply h]
    · have other : ¬(edit, s.creates edit) = (Edit.ensure id, true) :=
        fun same => own (Prod.mk.inj same).1
      have kept : (s.apply edit).region? id = none ↔ s.region? id = none := by
        cases h : s.region? id with
        | none => simp [region?_apply_none h own]
        | some r => simp [region?_apply h]
      simp [other, kept, Ne.symm own]

/-! ### The list -/

theorem sinceClear_concat_clear (edits : List Edit) :
    sinceClear (edits ++ [.clear itemsList]) = [] :=
  List.rtakeWhile_concat_neg _ _ _ (by simp)

theorem sinceClear_concat {edit : Edit} (other : edit ≠ .clear itemsList) (edits : List Edit) :
    sinceClear (edits ++ [edit]) = sinceClear edits ++ [edit] :=
  List.rtakeWhile_concat_pos _ _ _ (by simpa using other)

theorem entriesAfter_eq {edit : Edit} (other : edit ≠ .clear itemsList) (entries : List Entry) :
    edit.entriesAfter entries = entries ++ (edit.entryFor? itemsList).toList := by
  cases edit with
  | setText | setVisible | ensure => simp [Edit.entriesAfter, Edit.entryFor?]
  | clear id =>
    have key : id ≠ itemsList := fun same => other (congrArg Edit.clear same)
    simp [Edit.entriesAfter, Edit.entryFor?, key]
  | append id entry => by_cases key : id = itemsList <;> simp [Edit.entriesAfter, Edit.entryFor?, key]

theorem entries_applyAll_blank (edits : List Edit) :
    (blank.applyAll edits).entries = (sinceClear edits).filterMap (Edit.entryFor? itemsList) := by
  induction edits using List.reverseRecOn with
  | nil => rfl
  | append_singleton edits edit ih =>
    have last : (blank.applyAll (edits ++ [edit])).entries =
        edit.entriesAfter (blank.applyAll edits).entries := by
      rw [applyAll_append]
      exact entries_apply _ edit
    by_cases clears : edit = .clear itemsList
    · subst clears
      rw [last, sinceClear_concat_clear]
      rfl
    · rw [last, sinceClear_concat clears, entriesAfter_eq clears, ih, List.filterMap_append]
      cases entry : edit.entryFor? itemsList <;> simp [entry]

/-- What any edits of the blank surface leave. The regions are those of the blank surface and those
that were ensured, each of which was created once. A region holds the last text and visibility that
it was given in its life. The list holds what was appended to it since it was last cleared, and there
is no other. -/
theorem applyAll_blank (edits : List Edit) :
    (∀ id, ((blank.applyAll edits).region? id).isSome = true ↔
      id ∈ staticRegions ∨ Edit.ensure id ∈ edits) ∧
    (∀ id, (blank.answers edits).count (.ensure id, true) =
      if id ∉ staticRegions ∧ Edit.ensure id ∈ edits then 1 else 0) ∧
    (∀ id r, (blank.applyAll edits).region? id = some r ↔
      ∃ life, Life id edits life ∧ r = (Region.fresh id).after id life) ∧
    ∀ id, (blank.applyAll edits).list id =
      if id = itemsList then (sinceClear edits).filterMap (Edit.entryFor? itemsList) else [] := by
  refine ⟨fun id => isSome_region?_iff, fun id => ?_, fun id r => region?_eq_some_iff, fun id => ?_⟩
  · simp only [count_answers, region?_blank_eq_none_iff]
  · rw [list, entries_applyAll_blank]

/-- A text that comes too early is lost, and ensuring a region again changes nothing. -/
example : (blank.applyAll [.setText "note" "early", .ensure "note", .setText "note" "late",
    .setVisible "note" false, .ensure "note"]).region? "note" = some ⟨"late", false⟩ := by
  decide

end Surface

end OrderLookup.Page
