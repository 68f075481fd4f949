import OrderLookup.Order.Status
import OrderLookup.Proofs.Text.Lines

/-!
# Item states can be told apart

A word for an item state is no numeral, so that the label of a state gives its number back.
-/

namespace OrderLookup

open OrderLookup.Text

theorem statusLabel_cases (code : Int) :
    (code, statusLabel code) ∈ statusWords ∨ statusLabel code = intText code := by
  unfold statusLabel
  split
  · next word found =>
    have listed := List.mem_of_find?_eq_some found
    have same := List.find?_some found
    rw [beq_iff_eq] at same
    exact Or.inl (same ▸ listed)
  · exact Or.inr rfl

theorem word_ne_intText {code : Int} {word : String} (h : (code, word) ∈ statusWords) (z : Int) :
    word ≠ intText z := by
  have letters : statusWords.all (fun entry => entry.2.toList.any (!Decimal.isNumeral ·)) = true :=
    rfl
  obtain ⟨c, member, letter⟩ := List.any_eq_true.mp (List.all_eq_true.mp letters _ h)
  rintro rfl
  rw [isNumeral_of_mem_intText member] at letter
  cases letter

theorem statusLabel_injective {code code' : Int} (same : statusLabel code = statusLabel code') :
    code = code' := by
  have distinct : ∀ entry ∈ statusWords, ∀ entry' ∈ statusWords, entry.2 = entry'.2 →
      entry.1 = entry'.1 := by decide
  rcases statusLabel_cases code with word | number <;>
    rcases statusLabel_cases code' with word' | number'
  · exact distinct _ word _ word' same
  · exact (word_ne_intText word code' (same.trans number')).elim
  · exact (word_ne_intText word' code (same.symm.trans number)).elim
  · exact intText_injective (number.symm.trans (same.trans number'))

theorem oneLine_statusLabel (code : Int) : OneLine (statusLabel code) := by
  have words : ∀ entry ∈ statusWords, OneLine entry.2 := by decide
  rcases statusLabel_cases code with word | number
  · exact words _ word
  · rw [number]
    exact oneLine_intText code

end OrderLookup
