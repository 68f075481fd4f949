import OrderLookup.Proofs.Text.Decimal
import OrderLookup.Proofs.Text.Split

/-!
# Lines

A text of lines, each ended by a line feed, has no other lines than those it was made of
(`join_lines_injective`).
-/

namespace OrderLookup

namespace Text

def OneLine (s : String) : Prop :=
  '\n' ∉ s.toList

instance (s : String) : Decidable (OneLine s) :=
  inferInstanceAs (Decidable (¬_))

@[simp]
theorem oneLine_append {s t : String} : OneLine (s ++ t) ↔ OneLine s ∧ OneLine t := by
  simp [OneLine]

theorem cut_line {line : String} (one : OneLine line) (lines : List String) :
    cut '\n' (String.join ((line :: lines).map (· ++ "\n"))).toList =
      (line.toList, some (String.join (lines.map (· ++ "\n"))).toList) := by
  have text : (String.join ((line :: lines).map (· ++ "\n"))).toList =
      line.toList ++ '\n' :: (String.join (lines.map (· ++ "\n"))).toList := by
    simp [String.toList_join]
  rw [text, cut_append_cons one]

theorem join_lines_injective {lines lines' : List String} (one : ∀ line ∈ lines, OneLine line)
    (one' : ∀ line ∈ lines', OneLine line)
    (same : String.join (lines.map (· ++ "\n")) = String.join (lines'.map (· ++ "\n"))) :
    lines = lines' := by
  induction lines generalizing lines' with
  | nil =>
    cases lines' with
    | nil => rfl
    | cons line' lines' =>
      have cuts := cut_line (List.forall_mem_cons.mp one').1 lines'
      rw [← same] at cuts
      cases (Prod.mk.inj cuts).2
  | cons line lines ih =>
    rw [List.forall_mem_cons] at one
    have cuts := cut_line one.1 lines
    cases lines' with
    | nil =>
      rw [same] at cuts
      cases (Prod.mk.inj cuts).2
    | cons line' lines' =>
      rw [List.forall_mem_cons] at one'
      rw [same, cut_line one'.1, Prod.mk.injEq, Option.some.injEq, String.toList_inj,
        String.toList_inj] at cuts
      rw [cuts.1, ih one.2 one'.2 cuts.2.symm]

end Text

open Text

theorem oneLine_natText (n : Nat) : OneLine (natText n) := by
  intro mem
  rw [natText, String.toList_ofList] at mem
  exact absurd (Decimal.isDigit_of_mem_ofNat mem) (by decide)

theorem oneLine_intText (z : Int) : OneLine (intText z) := fun mem =>
  absurd (isNumeral_of_mem_intText mem) (by decide)

end OrderLookup
