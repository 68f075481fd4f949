import OrderLookup.Proofs.Json.Object

/-!
# Records are read from what stands for them

`Slot.record_reads`: the readers of objects and arrays accept exactly the values that stand for a
record, and give that record.
-/

namespace OrderLookup.Json

namespace Slot

variable {α : Type} {slots : List (Slot α)}

/-! ### Arrays -/

def Filled : List (Slot α) → α → List Value → α → Prop
  | [], draft, vs, a => vs = [] ∧ a = draft
  | slot :: later, draft, [], a => slot.optional = true ∧ Filled later draft [] a
  | slot :: later, draft, v :: vs, a =>
    ∃ b, slot.meaning v b ∧ Filled later (slot.set b draft) vs a

theorem positions_iff (shape : Shape α) {vs : List Value} {first : Bool} {s : List UInt8}
    (h : Remaining .elements first vs s) (rest : List UInt8) (count : Nat) (draft a : α)
    (r : List UInt8) :
    shape.positions (slots.map member) count first draft (s ++ ascii ']' :: rest) = .ok (a, r) ↔
      Filled slots draft vs a ∧ r = rest := by
  induction slots generalizing vs first s count draft with
  | nil =>
    rw [List.map_nil, Shape.positions, Filled]
    cases vs with
    | nil =>
      rw [(h.close_elements rest).2, ok_bind]
      simp [pure, Except.pure, eq_comm]
    | cons v vs =>
      simp only [bind_eq_ok]
      constructor
      · rintro ⟨_, close, _⟩
        exact (h.not_close _ _ close).elim
      · rintro ⟨⟨none, _⟩, _⟩
        cases none
  | cons slot later ih =>
    rw [List.map_cons, Shape.positions]
    cases vs with
    | nil =>
      rw [(h.close_elements rest).1, ok_bind, Filled]
      dsimp only
      cases optional : slot.optional with
      | true =>
        have left : slot.member.optional = true := optional
        rw [if_pos left, ih h]
        simp
      | false =>
        have required : ¬slot.member.optional = true := by simp [member, Codec.member, optional]
        rw [if_neg required]
        simp [throw, throwThe, MonadExceptOf.throw]
    | cons v vs =>
      obtain ⟨w, tail, value, after, _, next⟩ := h.next_element
      have read := slot.member_read value blank_nil (after.ends (b := ascii ']') (by decide) rest)
      rw [next, ok_bind, Filled]
      dsimp only
      simp only [List.nil_append] at read
      simp only [bind_eq_ok, Prod.exists, read]
      constructor
      · rintro ⟨_, _, ⟨b, means, rfl, rfl⟩, found⟩
        obtain ⟨filled, rfl⟩ := (ih after _ _).mp found
        exact ⟨⟨b, means, filled⟩, rfl⟩
      · rintro ⟨⟨b, means, filled⟩, rfl⟩
        exact ⟨_, _, ⟨b, means, rfl, rfl⟩, (ih after _ _).mpr ⟨filled, rfl⟩⟩

theorem lists_congr {x y : α} {slots : List (Slot α)} {vs : List Value} {a : α}
    (h : ∀ slot ∈ slots, slot.get x = slot.get y) : Lists x slots vs a ↔ Lists y slots vs a := by
  induction slots generalizing vs with
  | nil => rfl
  | cons slot later ih =>
    rw [List.forall_mem_cons] at h
    cases vs with
    | nil => rw [Lists, Lists, h.1, ih h.2]
    | cons v vs => rw [Lists, Lists, ih h.2]

/-- What has been stored stays, and the slots to come are listed. -/
theorem filled_iff (before : List (Slot α)) {later : List (Slot α)}
    (independent : Independent (before ++ later)) {draft a : α} {vs : List Value} :
    Filled later draft vs a ↔
      (∀ slot ∈ before, slot.get a = slot.get draft) ∧ Lists draft later vs a := by
  induction later generalizing before draft vs with
  | nil =>
    rw [List.append_nil] at independent
    rw [Filled, Lists, and_comm]
    refine and_congr_left fun _ => ⟨?_, independent.ext a draft⟩
    rintro rfl slot _
    rfl
  | cons slot later ih =>
    have joined : before ++ slot :: later = before ++ [slot] ++ later := by simp
    rw [joined] at independent
    have step {draft : α} {vs : List Value} : Filled later draft vs a ↔
        ((∀ slot ∈ before, slot.get a = slot.get draft) ∧ slot.get a = slot.get draft) ∧
          Lists draft later vs a := by
      rw [ih (before ++ [slot]) independent, List.forall_mem_append, List.forall_mem_singleton]
    rw [← joined] at independent
    cases vs with
    | nil =>
      rw [Filled, Lists, step]
      constructor
      · rintro ⟨optional, ⟨stays, own⟩, lists⟩
        exact ⟨stays, optional, own, lists⟩
      · rintro ⟨stays, optional, own, lists⟩
        exact ⟨optional, ⟨stays, own⟩, lists⟩
    | cons v vs =>
      -- Storing `slot` touches neither what is stored nor what the slots to come start from.
      have distinct : slot.key ∉ (before ++ later).map (·.key) := by
        have all := independent.distinct
        rw [List.map_append, List.map_cons, List.nodup_middle, ← List.map_append] at all
        exact (List.nodup_cons.mp all).1
      have frame {other : Slot α} (listed : other ∈ before ++ later) (b : slot.β) :
          other.get (slot.set b draft) = other.get draft := by
        have listed' : other ∈ before ++ slot :: later := by
          simp only [List.mem_append, List.mem_cons] at listed ⊢
          exact listed.imp_right Or.inr
        have differs : other.key ≠ slot.key := fun same =>
          distinct (List.mem_map.mpr ⟨other, listed, same⟩)
        exact independent.frame (by simp) listed' differs b draft
      have keep (b : slot.β) : Lists (slot.set b draft) later vs a ↔ Lists draft later vs a :=
        lists_congr fun other listed => frame (List.mem_append_right before listed) b
      rw [Filled, Lists]
      constructor
      · rintro ⟨b, means, filled⟩
        obtain ⟨⟨stays, own⟩, lists⟩ := step.mp filled
        rw [slot.get_set] at own
        refine ⟨fun other listed => ?_, own ▸ means, (keep b).mp lists⟩
        rw [stays other listed, frame (List.mem_append_left later listed)]
      · rintro ⟨stays, means, lists⟩
        refine ⟨slot.get a, means, step.mpr ⟨⟨fun other listed => ?_, ?_⟩, (keep _).mpr lists⟩⟩
        · rw [stays other listed, frame (List.mem_append_left later listed)]
        · rw [slot.get_set]

theorem lists_iff (independent : Independent slots) {blank a : α} {vs : List Value} :
    Lists blank slots vs a ↔ Filled slots blank vs a := by
  rw [filled_iff [] independent]
  simp

/-! ### Records -/

theorem record_read (shape : Shape α) {gap : List UInt8} (blank : Blank gap) {b : UInt8}
    (token : isBlank b = false) (t : List UInt8) :
    shape.codec.read (gap ++ b :: t) =
      if b = ascii '[' then shape.positions shape.members 0 true shape.blank t
      else if b = ascii '{' then shape.entries (t.length + 1) true [] shape.blank t
      else .error (refuse (.record shape.name) b t) := by
  change (nextByte (gap ++ b :: t) >>= _) = _
  rw [nextByte_mark token blank]
  rfl

theorem record_reads (independent : Independent slots) {shape : Shape α}
    (same : shape.members = slots.map member) : shape.codec.Reads (record slots shape.blank) := by
  intro v s h gap rest blank _ a r
  by_cases array : ∃ vs, v = .array vs
  · obtain ⟨vs, rfl⟩ := array
    cases h with
    | array inside =>
      simp only [List.cons_append, List.append_assoc, List.nil_append]
      rw [record_read shape blank (by decide), if_pos rfl, same, positions_iff shape (.all inside),
        record, lists_iff independent]
  by_cases object : ∃ ms, v = .object ms
  · obtain ⟨ms, rfl⟩ := object
    cases h with
    | object inside =>
      simp only [List.cons_append, List.append_assoc, List.nil_append]
      rw [record_read shape blank (by decide), if_neg (by decide), if_pos rfl,
        entries_iff independent same (.all inside) (by rw [List.length_append]; omega), record,
        describes_iff independent]
  obtain ⟨b, t, rfl, starts⟩ := h.starts
  have noArray : b ≠ ascii '[' := by
    rintro rfl
    exact array (Value.eq_array_of_starts starts)
  have noObject : b ≠ ascii '{' := by
    rintro rfl
    exact object (Value.eq_object_of_starts starts)
  rw [List.cons_append, record_read shape blank starts.between.1, if_neg noArray,
    if_neg noObject]
  refine ⟨nofun, fun ⟨means, _⟩ => ?_⟩
  exfalso
  cases v with
  | array vs => exact array ⟨vs, rfl⟩
  | object ms => exact object ⟨ms, rfl⟩
  | null | boolean | number | string => exact means

end Slot

end OrderLookup.Json
