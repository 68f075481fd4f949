import Mathlib.Algebra.Ring.Nat
import Mathlib.Data.List.TakeWhile
import OrderLookup.Proofs.Text.Split
import OrderLookup.Text.Decimal

/-!
# Numerals as texts

A numeral is made of digits, with a sign in front if the number is negative, and denotes its number.
So no two integers have the same text (`intText_injective`). A numeral filled up to a width is read
back by that width (`exactly_padded`, `upTo_padded`), and every run of that many digits is one
(`padded_value`).
-/

namespace OrderLookup

namespace Text.Decimal

theorem digitChar_mod (n : Nat) : digitChar (n % 10) = digitChar n := by
  rw [digitChar, digitChar, Nat.mod_mod]

theorem digitChar_digit (n : Nat) :
    isDigit (digitChar n) = true ∧ digitValue (digitChar n) = n % 10 := by
  have all : ∀ d < 10, isDigit (digitChar d) = true ∧ digitValue (digitChar d) = d := by decide
  rw [← digitChar_mod]
  exact all (n % 10) (Nat.mod_lt n (by decide))

theorem value_concat (digits : List Char) (c : Char) :
    value (digits ++ [c]) = value digits * 10 + digitValue c := by
  simp [value]

theorem value_ofNat (n : Nat) : value (ofNat n) = n := by
  fun_induction ofNat n with
  | case1 n small =>
    have one : value [digitChar n] = digitValue (digitChar n) := by simp [value]
    rw [one, (digitChar_digit n).2, Nat.mod_eq_of_lt small]
  | case2 n large ih =>
    rw [value_concat, ih, (digitChar_digit n).2]
    omega

theorem isDigit_of_mem_ofNat {c : Char} {n : Nat} (h : c ∈ ofNat n) : isDigit c = true := by
  fun_induction ofNat n with
  | case1 n small =>
    obtain rfl := List.mem_singleton.mp h
    exact (digitChar_digit n).1
  | case2 n large ih =>
    rcases List.mem_append.mp h with front | last
    · exact ih front
    · obtain rfl := List.mem_singleton.mp last
      exact (digitChar_digit n).1

theorem ofNat_ne_nil (n : Nat) : ofNat n ≠ [] := by
  unfold ofNat
  split <;> simp

theorem isDigit_of_mem_padded {c : Char} {width n : Nat} (h : c ∈ padded width n) :
    isDigit c = true := by
  rcases List.mem_append.mp h with zero | digit
  · obtain rfl := (List.mem_replicate.mp zero).2
    rfl
  · exact isDigit_of_mem_ofNat digit

theorem ofNat_injective {m n : Nat} (same : ofNat m = ofNat n) : m = n := by
  rw [← value_ofNat m, same, value_ofNat]

def isNumeral (c : Char) : Bool :=
  isDigit c || c == '-'

theorem isNumeral_of_mem_ofInt {c : Char} {z : Int} (h : c ∈ ofInt z) : isNumeral c = true := by
  unfold ofInt at h
  split at h
  · rcases List.mem_cons.mp h with rfl | digit
    · rfl
    · simp [isNumeral, isDigit_of_mem_ofNat digit]
  · simp [isNumeral, isDigit_of_mem_ofNat h]

/-! ### Numerals of a given width -/

theorem value_zeros (count : Nat) (digits : List Char) :
    value (List.replicate count '0' ++ digits) = value digits := by
  induction count with
  | zero => rfl
  | succ count ih => exact ih

theorem value_padded (width n : Nat) : value (padded width n) = n := by
  unfold padded
  rw [value_zeros, value_ofNat]

theorem padded_injective {width m n : Nat} (same : padded width m = padded width n) : m = n := by
  rw [← value_padded width m, same, value_padded]

theorem length_ofNat_le {width n : Nat} (small : n < 10 ^ (width + 1)) :
    (ofNat n).length ≤ width + 1 := by
  induction width generalizing n with
  | zero =>
    have digit : n < 10 := small
    unfold ofNat
    rw [if_pos digit]
    exact Nat.le_refl 1
  | succ width ih =>
    unfold ofNat
    split
    · exact Nat.succ_pos _
    · have shorter : n / 10 < 10 ^ (width + 1) := by
        rw [Nat.div_lt_iff_lt_mul (by decide), ← Nat.pow_succ]
        exact small
      rw [List.length_append]
      exact Nat.succ_le_succ (ih shorter)

theorem le_length_padded (width n : Nat) : width ≤ (padded width n).length := by
  unfold padded
  rw [List.length_append, List.length_replicate]
  omega

theorem length_padded {width n : Nat} (small : n < 10 ^ (width + 1)) :
    (padded (width + 1) n).length = width + 1 := by
  have short := length_ofNat_le small
  unfold padded
  rw [List.length_append, List.length_replicate]
  omega

theorem padded_ne_cons {c : Char} {width n : Nat} {s : List Char} (other : isDigit c = false) :
    padded width n ≠ c :: s := by
  intro same
  have digit : isDigit c = true := by
    apply isDigit_of_mem_padded
    rw [same]
    exact List.mem_cons_self
  rw [other] at digit
  cases digit

theorem exists_padded_eq_cons (width n : Nat) :
    ∃ c digits, padded (width + 1) n = c :: digits ∧ isDigit c = true := by
  have long := le_length_padded (width + 1) n
  cases numeral : padded (width + 1) n with
  | nil =>
    rw [numeral] at long
    cases long
  | cons c digits =>
    have member : c ∈ padded (width + 1) n := by
      rw [numeral]
      exact List.mem_cons_self
    exact ⟨c, digits, rfl, isDigit_of_mem_padded member⟩

/-- Numerals of one width are told apart whatever follows them. -/
theorem padded_append_inj {width m n : Nat} {s t : List Char} (small : m < 10 ^ (width + 1))
    (small' : n < 10 ^ (width + 1))
    (same : padded (width + 1) m ++ s = padded (width + 1) n ++ t) : m = n ∧ s = t := by
  have lengths := (length_padded small).trans (length_padded small').symm
  obtain ⟨numerals, rest⟩ := List.append_inj same lengths
  exact ⟨padded_injective numerals, rest⟩

theorem exactly_padded {width n : Nat} (small : n < 10 ^ (width + 1)) (rest : List Char) :
    exactly (width + 1) (padded (width + 1) n ++ rest) = some (n, rest) := by
  have length := length_padded small
  have digits : (padded (width + 1) n).all isDigit = true :=
    List.all_eq_true.mpr fun _ => isDigit_of_mem_padded
  have front : (padded (width + 1) n ++ rest).take (width + 1) = padded (width + 1) n :=
    List.take_left' length
  have back : (padded (width + 1) n ++ rest).drop (width + 1) = rest := List.drop_left' length
  unfold exactly
  dsimp only
  rw [front, back, if_pos ⟨length, digits⟩, value_padded]

theorem upTo_padded {width n : Nat} (small : n < 10 ^ (width + 1)) (rest : List Char) :
    upTo (width + 1) (padded (width + 1) n ++ rest) = some (n, rest) := by
  have length := length_padded small
  have front : (padded (width + 1) n ++ rest).take (width + 1) = padded (width + 1) n :=
    List.take_left' length
  have digits : (padded (width + 1) n).takeWhile isDigit = padded (width + 1) n :=
    List.takeWhile_eq_self_iff.mpr fun _ => isDigit_of_mem_padded
  have filled : (padded (width + 1) n).isEmpty = false := by
    rw [List.isEmpty_eq_false_iff, ← List.length_pos_iff, length]
    exact Nat.succ_pos width
  unfold upTo
  dsimp only
  rw [front, digits, filled, value_padded, List.drop_left' rfl]
  rfl

/-! ### Runs of digits -/

/-- A numeral of `width` digits, with zeros in front where they are needed. -/
def Digits (width : Nat) (s : List Char) : Prop :=
  s.length = width ∧ ∀ c ∈ s, isDigit c = true

instance (width : Nat) (s : List Char) : Decidable (Digits width s) :=
  decidable_of_iff (s.length = width ∧ s.all isDigit = true) (and_congr_right' List.all_eq_true)

theorem digits_padded {width n : Nat} (small : n < 10 ^ (width + 1)) :
    Digits (width + 1) (padded (width + 1) n) :=
  ⟨length_padded small, fun _ => isDigit_of_mem_padded⟩

theorem Digits.concat {width : Nat} {s : List Char} (digits : Digits (width + 1) s) :
    ∃ front c, s = front ++ [c] ∧ Digits width front ∧ isDigit c = true := by
  obtain ⟨length, all⟩ := digits
  have filled : s ≠ [] := List.ne_nil_of_length_eq_add_one length
  refine ⟨s.dropLast, s.getLast filled, (List.dropLast_concat_getLast filled).symm, ⟨?_, ?_⟩, ?_⟩
  · rw [List.length_dropLast, length, Nat.add_sub_cancel]
  · intro c member
    exact all c (List.dropLast_subset _ member)
  · exact all _ (List.getLast_mem filled)

theorem digitChar_digitValue {c : Char} (digit : isDigit c = true) :
    digitValue c < 10 ∧ digitChar (digitValue c) = c := by
  simp only [isDigit, Bool.and_eq_true, decide_eq_true_eq] at digit
  have low : 48 ≤ c.toNat := UInt32.le_iff_toNat_le.mp digit.1
  have high : c.toNat ≤ 57 := UInt32.le_iff_toNat_le.mp digit.2
  have zero : '0'.toNat = 48 := rfl
  unfold digitChar digitValue
  rw [zero]
  have small : c.toNat - 48 < 10 := by omega
  refine ⟨small, ?_⟩
  rw [Nat.mod_eq_of_lt small, Nat.add_sub_cancel' low, Char.ofNat_toNat]

theorem padded_succ (width n : Nat) :
    padded (width + 2) n = padded (width + 1) (n / 10) ++ [digitChar n] := by
  unfold padded
  rw [ofNat.eq_def n]
  by_cases small : n < 10
  · have zero : digitChar 0 = '0' := rfl
    have one : ofNat 0 = [digitChar 0] := by simp [ofNat]
    rw [if_pos small, Nat.div_eq_of_lt small, one, zero]
    simp [← List.replicate_succ']
  · rw [if_neg small]
    simp

/-- A numeral is the one of its value. -/
theorem padded_value {width : Nat} {s : List Char} (digits : Digits (width + 1) s) :
    padded (width + 1) (value s) = s := by
  induction width generalizing s with
  | zero =>
    obtain ⟨front, c, rfl, ⟨empty, -⟩, digit⟩ := digits.concat
    obtain rfl := List.length_eq_zero_iff.mp empty
    obtain ⟨small, same⟩ := digitChar_digitValue digit
    have one : value ([] ++ [c]) = digitValue c := by simp [value]
    rw [one, padded, ofNat, if_pos small, same]
    rfl
  | succ width ih =>
    obtain ⟨front, c, rfl, shorter, digit⟩ := digits.concat
    obtain ⟨small, same⟩ := digitChar_digitValue digit
    have last : (value front * 10 + digitValue c) % 10 = digitValue c := by omega
    have rest : (value front * 10 + digitValue c) / 10 = value front := by omega
    rw [value_concat, padded_succ, rest, ih shorter, ← digitChar_mod, last, same]

theorem value_lt {width : Nat} {s : List Char} (digits : Digits width s) :
    value s < 10 ^ width := by
  induction width generalizing s with
  | zero =>
    obtain rfl := List.length_eq_zero_iff.mp digits.1
    decide
  | succ width ih =>
    obtain ⟨front, c, rfl, shorter, digit⟩ := digits.concat
    have less := ih shorter
    have small := (digitChar_digitValue digit).1
    rw [value_concat, Nat.pow_succ]
    omega

/-! ### What the readers take -/

theorem run_append {width : Nat} {digits rest : List Char} (numeral : Digits (width + 1) digits)
    (stops : ∀ c ∈ rest.head?, isDigit c = false) :
    run (digits ++ rest) = some (value digits, rest) := by
  obtain ⟨length, all⟩ := numeral
  obtain ⟨front, back⟩ := takeWhile_append_stop all stops
  have filled : digits.isEmpty = false :=
    List.isEmpty_eq_false_iff.mpr (List.ne_nil_of_length_eq_add_one length)
  unfold run
  dsimp only
  rw [front, back, filled]
  rfl

theorem exactly_ok {count n : Nat} {s rest : List Char} (h : exactly count s = some (n, rest)) :
    ∃ digits, Digits count digits ∧ s = digits ++ rest ∧ value digits = n := by
  unfold exactly at h
  dsimp only at h
  split at h
  · next taken =>
    obtain ⟨rfl, rfl⟩ := Prod.mk.inj (Option.some.inj h)
    exact ⟨_, ⟨taken.1, List.all_eq_true.mp taken.2⟩, (List.take_append_drop count s).symm, rfl⟩
  · cases h

theorem upTo_ok {limit n : Nat} {s rest : List Char} (h : upTo limit s = some (n, rest)) :
    ∃ count digits, count ≤ limit ∧ Digits count digits ∧ s = digits ++ rest ∧
      value digits = n := by
  unfold upTo at h
  dsimp only at h
  split at h
  · cases h
  · obtain ⟨rfl, rfl⟩ := Prod.mk.inj (Option.some.inj h)
    have front : (s.take limit).takeWhile isDigit <+: s :=
      (List.takeWhile_prefix _).trans (List.take_prefix _ _)
    refine ⟨_, _, ?_, ⟨rfl, fun c => List.mem_takeWhile_imp⟩, ?_, rfl⟩
    · exact (List.takeWhile_prefix _).length_le.trans (List.length_take_le _ _)
    · exact (List.prefix_iff_eq_append.mp front).symm

theorem run_ok {n : Nat} {s rest : List Char} (h : run s = some (n, rest)) :
    ∃ count digits, Digits count digits ∧ s = digits ++ rest := by
  unfold run at h
  dsimp only at h
  split at h
  · cases h
  · obtain ⟨-, rfl⟩ := Prod.mk.inj (Option.some.inj h)
    exact ⟨_, _, ⟨rfl, fun c => List.mem_takeWhile_imp⟩, List.takeWhile_append_dropWhile.symm⟩

theorem ofNat_ne_dash (n : Nat) (s : List Char) : ofNat n ≠ '-' :: s := by
  intro same
  have digit : isDigit '-' = true := isDigit_of_mem_ofNat (n := n) (by simp [same])
  exact absurd digit (by decide)

theorem ofInt_injective {y z : Int} (same : ofInt y = ofInt z) : y = z := by
  unfold ofInt at same
  split at same <;> split at same
  · have digits := ofNat_injective (List.cons.inj same).2
    omega
  · exact (ofNat_ne_dash _ _ same.symm).elim
  · exact (ofNat_ne_dash _ _ same).elim
  · have digits := ofNat_injective same
    omega

end Text.Decimal

open Text.Decimal

theorem natText_injective {m n : Nat} (same : natText m = natText n) : m = n :=
  ofNat_injective (String.ofList_inj.mp same)

theorem intText_injective {y z : Int} (same : intText y = intText z) : y = z :=
  ofInt_injective (String.ofList_inj.mp same)

theorem isNumeral_of_mem_intText {c : Char} {z : Int} (h : c ∈ (intText z).toList) :
    isNumeral c = true := by
  rw [intText, String.toList_ofList] at h
  exact isNumeral_of_mem_ofInt h

end OrderLookup
