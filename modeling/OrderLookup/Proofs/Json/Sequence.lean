import Mathlib.Data.List.Forall2
import OrderLookup.Proofs.Json.Codec

/-!
# Elements one after another

The readers of arrays and objects go from one element or member to the next. `Remaining` is what
they have in front of them, and `Codec.list_reads` is the first use of it.
-/

namespace OrderLookup.Json

/-- What is left before the closing bracket: all there is, or what follows an element or member. -/
inductive Remaining {α : Type} (part : List α → Part) : Bool → List α → List UInt8 → Prop
  | all {as : List α} {s : List UInt8} (h : Spells (part as) s) : Remaining part true as s
  | done {gap : List UInt8} (h : Blank gap) : Remaining part false [] gap
  | comma {gap : List UInt8} (h : Blank gap) {a : α} {as : List α} {s : List UInt8}
    (later : Spells (part (a :: as)) s) : Remaining part false (a :: as) (gap ++ ascii ',' :: s)

inductive Lead : Bool → List UInt8 → Prop
  | none : Lead true []
  | comma {gap : List UInt8} (h : Blank gap) : Lead false (gap ++ [ascii ','])

namespace Remaining

variable {first : Bool} {s : List UInt8}

/-- After a value there is white space, a comma or the closing bracket. -/
theorem ends {α : Type} {part : List α → Part} {as : List α} (h : Remaining part false as s)
    {b : UInt8} (close : isNumeralByte b = false) (rest : List UInt8) : Ends (s ++ b :: rest) := by
  cases h with
  | done blank => exact ends_append blank (ends_cons close rest)
  | comma blank later =>
    rw [List.append_assoc]
    exact ends_append blank (ends_cons (by decide) _)

theorem lead {α : Type} {part : List α → Part} {a : α} {as : List α}
    (h : Remaining part first (a :: as) s) :
    ∃ l u, s = l ++ u ∧ Lead first l ∧ Spells (part (a :: as)) u := by
  cases h with
  | all inside => exact ⟨[], s, rfl, .none, inside⟩
  | comma blank later =>
    refine ⟨_, _, ?_, .comma blank, later⟩
    rw [List.append_assoc, List.singleton_append]

theorem close_elements (h : Remaining .elements first [] s) (rest : List UInt8) :
    Codec.nextElement first (s ++ ascii ']' :: rest) = .ok none ∧
      Codec.closeArray (s ++ ascii ']' :: rest) = .ok rest := by
  have blank : Blank s := by
    cases h with
    | all elements => cases elements with | noElement blank => exact blank
    | done blank => exact blank
  rw [Codec.nextElement, Codec.closeArray, nextByte_mark (by decide) blank]
  exact ⟨rfl, rfl⟩

/-- The value at the front of some elements, the white space around it and what follows. -/
theorem split_elements {v : Value} {vs : List Value} (h : Spells (.elements (v :: vs)) s) :
    ∃ before w tail, s = before ++ (w ++ tail) ∧ Blank before ∧ Spells (.value v) w ∧
      Remaining .elements false vs tail := by
  cases h with
  | element element =>
    cases element with
    | padded front value back => exact ⟨_, _, _, rfl, front, value, .done back⟩
  | moreElements element later =>
    cases element with
    | padded front value back =>
      refine ⟨_, _, _, ?_, front, value, .comma back later⟩
      simp only [List.append_assoc]

theorem nextElement_lead {l : List UInt8} (lead : Lead first l) {gap : List UInt8}
    (blank : Blank gap) {b : UInt8} (token : isBlank b = false) (noClose : b ≠ ascii ']')
    (t : List UInt8) : Codec.nextElement first (l ++ (gap ++ b :: t)) = .ok (some (b :: t)) := by
  cases lead with
  | none =>
    rw [List.nil_append, Codec.nextElement, nextByte_mark token blank, ok_bind]
    simp only [noClose, if_false, if_true]
    rfl
  | comma front =>
    rw [List.append_assoc, List.singleton_append, Codec.nextElement,
      nextByte_mark (by decide) front, ok_bind]
    dsimp only
    rw [if_neg (by decide), nextByte_mark token blank]
    simp only [Bool.false_eq_true, if_false, ne_eq, not_true_eq_false, ok_bind, noClose]
    rfl

/-- The value that comes next, which the reader is left at, and what remains after it. -/
theorem next_element {v : Value} {vs : List Value} (h : Remaining .elements first (v :: vs) s) :
    ∃ w tail, Spells (.value v) w ∧ Remaining .elements false vs tail ∧ tail.length < s.length ∧
      ∀ rest, Codec.nextElement first (s ++ rest) = .ok (some (w ++ (tail ++ rest))) := by
  obtain ⟨l, u, rfl, lead, elements⟩ := h.lead
  obtain ⟨gap, w, tail, rfl, blank, value, later⟩ := split_elements elements
  obtain ⟨b, t, rfl, starts⟩ := value.starts
  refine ⟨_, tail, value, later, ?_, fun rest => ?_⟩
  · simp only [List.length_append, List.length_cons]
    omega
  · simp only [List.append_assoc, List.cons_append]
    exact nextElement_lead lead blank starts.between.1 starts.between.2 _

/-- What is left of some elements is no end of an array. -/
theorem not_close {v : Value} {vs : List Value} (h : Remaining .elements first (v :: vs) s)
    (rest : List UInt8) (r : List UInt8) : Codec.closeArray (s ++ rest) ≠ .ok r := by
  cases h with
  | all elements =>
    obtain ⟨before, w, tail, rfl, blank, value, later⟩ := split_elements elements
    obtain ⟨b, t, rfl, starts⟩ := value.starts
    simp only [List.append_assoc, List.cons_append]
    rw [Codec.closeArray, nextByte_mark starts.between.1 blank, ok_bind]
    dsimp only
    rw [if_neg starts.between.2]
    nofun
  | comma front elements =>
    rw [List.append_assoc, List.cons_append, Codec.closeArray, nextByte_mark (by decide) front]
    nofun

end Remaining

namespace Codec

variable {β : Type} {c : Codec β} {m : Meaning β}

theorem elements_iff (reads : c.Reads m) {vs : List Value} {first : Bool} {s : List UInt8}
    (h : Remaining .elements first vs s) {fuel : Nat} (enough : s.length < fuel)
    (rest : List UInt8) (bs : List β) (r : List UInt8) :
    elements c fuel first (s ++ ascii ']' :: rest) = .ok (bs, r) ↔
      List.Forall₂ m vs bs ∧ r = rest := by
  induction vs generalizing first s fuel bs with
  | nil =>
    obtain ⟨fuel, rfl⟩ := Nat.exists_eq_add_one_of_ne_zero (Nat.ne_zero_of_lt enough)
    obtain ⟨next, close⟩ := h.close_elements rest
    rw [elements, next, ok_bind]
    dsimp only
    rw [close, List.forall₂_nil_left_iff]
    simp [eq_comm]
  | cons v vs ih =>
    obtain ⟨fuel, rfl⟩ := Nat.exists_eq_add_one_of_ne_zero (Nat.ne_zero_of_lt enough)
    obtain ⟨w, tail, value, later, shorter, next⟩ := h.next_element
    have read (b : β) (r : List UInt8) :
        c.read (w ++ (tail ++ ascii ']' :: rest)) = .ok (b, r) ↔
          m v b ∧ r = tail ++ ascii ']' :: rest :=
      reads value blank_nil (later.ends (by decide) rest) b r
    rw [elements, next, ok_bind]
    simp only [bind_eq_ok, Prod.exists, read]
    constructor
    · rintro ⟨b, _, ⟨means, rfl⟩, bs, _, found, same⟩
      obtain ⟨rfl, rfl⟩ := Prod.mk.inj (Except.ok.inj same)
      obtain ⟨mean, rfl⟩ := (ih later (by omega) bs).mp found
      exact ⟨.cons means mean, rfl⟩
    · rintro ⟨_ | ⟨means, mean⟩, rfl⟩
      exact ⟨_, _, ⟨means, rfl⟩, _, _,
        (ih later (by omega) _).mpr ⟨mean, rfl⟩, rfl⟩

theorem list_read (c : Codec β) {gap : List UInt8} (blank : Blank gap) {b : UInt8}
    (token : isBlank b = false) (t : List UInt8) :
    (list c).read (gap ++ b :: t) =
      if b = ascii '[' then elements c (t.length + 1) true t
      else .error (refuse .sequence b t) := by
  change (nextByte (gap ++ b :: t) >>= _) = _
  rw [nextByte_mark token blank]
  rfl

theorem list_reads (reads : c.Reads m) : (list c).Reads (Meaning.list m) := by
  intro v s h gap rest blank _ bs r
  by_cases array : ∃ vs, v = .array vs
  · obtain ⟨vs, rfl⟩ := array
    cases h with
    | array inside =>
      simp only [List.cons_append, List.append_assoc, List.nil_append]
      rw [list_read c blank (by decide), if_pos rfl,
        elements_iff reads (.all inside) (by rw [List.length_append]; omega)]
      simp [Meaning.list]
  · obtain ⟨b, t, rfl, starts⟩ := h.starts
    have other : b ≠ ascii '[' := by
      rintro rfl
      exact array (Value.eq_array_of_starts starts)
    rw [List.cons_append, list_read c blank starts.between.1, if_neg other]
    exact ⟨nofun, fun ⟨⟨vs, same, _⟩, _⟩ => (array ⟨vs, same⟩).elim⟩

theorem listOrNull_reads (reads : c.Reads m) : (listOrNull c).Reads (Meaning.listOrNull m) := by
  intro v s h gap rest blank ends bs r
  have read := nullable_reads (list_reads reads) h blank ends
  change ((nullable (list c)).read _ >>= _) = _ ↔ _
  simp only [bind_eq_ok, Prod.exists, read]
  constructor
  · rintro ⟨o, _, ⟨means, rfl⟩, same⟩
    obtain ⟨rfl, rfl⟩ := Prod.mk.inj (Except.ok.inj same)
    cases o with
    | none => exact ⟨Or.inl ⟨means, rfl⟩, rfl⟩
    | some bs => exact ⟨Or.inr means.2, rfl⟩
  · rintro ⟨⟨rfl, rfl⟩ | ⟨vs, rfl, mean⟩, rfl⟩
    · exact ⟨none, _, ⟨rfl, rfl⟩, rfl⟩
    · exact ⟨some bs, _, ⟨⟨nofun, vs, rfl, mean⟩, rfl⟩, rfl⟩

end Codec

end OrderLookup.Json
