import Mathlib.Data.List.TakeWhile
import OrderLookup.Text.Blank
import OrderLookup.Text.Decimal

/-!
# What trimming leaves

`Trims` says what a text without the white space at its ends is, and `trims_iff` that every text has
one. White space put around a text makes no difference (`trim_append`).
-/

namespace OrderLookup.Text

def Blanks (s : List Char) : Prop :=
  ∀ c ∈ s, isBlank c = true

instance (s : List Char) : Decidable (Blanks s) :=
  List.decidableBAll (fun c => isBlank c = true) s

/-- `t` is `s` without the white space at its ends: nothing else is missing, and no more could be. -/
structure Trims (s t : List Char) : Prop where
  around : ∃ front back, Blanks front ∧ Blanks back ∧ s = front ++ (t ++ back)
  first : ∀ c ∈ t.head?, isBlank c = false
  last : ∀ c ∈ t.getLast?, isBlank c = false

theorem isBlank_of_isDigit {c : Char} (digit : Decimal.isDigit c = true) : isBlank c = false := by
  simp only [Decimal.isDigit, Bool.and_eq_true, decide_eq_true_eq] at digit
  have low : 48 ≤ c.toNat := UInt32.le_iff_toNat_le.mp digit.1
  have high : c.toNat ≤ 57 := UInt32.le_iff_toNat_le.mp digit.2
  simp [isBlank]
  omega

theorem blanks_takeWhile (s : List Char) : Blanks (s.takeWhile isBlank) :=
  fun _ member => List.mem_takeWhile_imp member

theorem Blanks.reverse {s : List Char} (h : Blanks s) : Blanks s.reverse :=
  fun c member => h c (List.mem_reverse.mp member)

/-! ### White space at the ends -/

theorem trimStart_append {front : List Char} (h : Blanks front) (s : List Char) :
    trimStart (front ++ s) = trimStart s :=
  List.dropWhile_append_of_pos h

theorem trimEnd_append {back : List Char} (h : Blanks back) (s : List Char) :
    trimEnd (s ++ back) = trimEnd s := by
  rw [trimEnd, List.reverse_append, List.dropWhile_append_of_pos h.reverse, trimEnd]

theorem trim_append {front back : List Char} (before : Blanks front) (after : Blanks back)
    (s : List Char) : trim (front ++ (s ++ back)) = trim s := by
  rw [trim, trimStart_append before, trimStart, List.dropWhile_append, trim, trimStart]
  split
  · next all =>
    have nothing : back.dropWhile isBlank = [] := List.dropWhile_eq_nil_iff.mpr after
    rw [nothing, List.isEmpty_iff.mp all]
  · exact trimEnd_append after _

/-! ### Texts that trimming leaves alone -/

theorem trimEnd_eq_self {s : List Char} (h : ∀ c ∈ s.getLast?, isBlank c = false) :
    trimEnd s = s := by
  have kept : trimStart s.reverse = s.reverse :=
    trimStart_eq_self fun c first => h c (by rwa [List.head?_reverse] at first)
  have back := congrArg List.reverse kept
  rwa [List.reverse_reverse] at back

theorem Trims.eq_trim {s t : List Char} (h : Trims s t) : t = trim s := by
  obtain ⟨⟨front, back, before, after, rfl⟩, first, last⟩ := h
  rw [trim_append before after, trim, trimStart_eq_self first, trimEnd_eq_self last]

theorem exists_trimStart (s : List Char) : ∃ front, Blanks front ∧ s = front ++ trimStart s :=
  ⟨_, blanks_takeWhile s, List.takeWhile_append_dropWhile.symm⟩

theorem exists_trimEnd (s : List Char) : ∃ back, Blanks back ∧ s = trimEnd s ++ back := by
  obtain ⟨front, blanks, split⟩ := exists_trimStart s.reverse
  have joined := congrArg List.reverse split
  rw [List.reverse_reverse, List.reverse_append] at joined
  exact ⟨front.reverse, blanks.reverse, joined⟩

theorem trims_trim (s : List Char) : Trims s (trim s) := by
  obtain ⟨front, before, start⟩ := exists_trimStart s
  obtain ⟨back, after, stop⟩ := exists_trimEnd (trimStart s)
  refine ⟨⟨front, back, before, after, ?_⟩, fun c first => ?_, fun c last => ?_⟩
  · rw [trim, ← stop, ← start]
  · rw [← trimStart_trim s] at first
    exact head?_trimStart first
  · rw [trim, trimEnd, List.getLast?_reverse] at last
    exact head?_trimStart (s := (trimStart s).reverse) last

theorem trims_iff {s t : List Char} : Trims s t ↔ t = trim s := by
  constructor
  · exact Trims.eq_trim
  · rintro rfl
    exact trims_trim s

end OrderLookup.Text
