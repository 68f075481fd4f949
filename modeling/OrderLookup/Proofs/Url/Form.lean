import OrderLookup.Proofs.Text.Percent
import OrderLookup.Proofs.Text.Split
import OrderLookup.Url.Form

/-!
# Form encoding round trip

`read_write` reads every list of pairs back. Keys and values are apart because an encoded text holds
no character that separates pairs or their parts, which is `isWritten_of_mem_encode`.
-/

namespace OrderLookup.Url.Form

open OrderLookup.Text

def isWritten (c : Char) : Bool :=
  isPlain c || c == '+' || c == '%'

theorem isWritten_of_isEscape {c : Char} (h : Percent.isEscape c = true) : isWritten c = true := by
  simp only [Percent.isEscape, Bool.or_eq_true, Bool.and_eq_true, beq_iff_eq,
    decide_eq_true_eq] at h
  rcases h with (percent | digit) | letter
  · simp [isWritten, percent]
  · simp [isWritten, isPlain, digit]
  · have upper : c ≤ 'Z' := Char.le_trans letter.2 (by decide)
    simp [isWritten, isPlain, letter.1, upper]

theorem isWritten_of_mem_encode {s : List Char} {c : Char} (h : c ∈ encode s) :
    isWritten c = true := by
  obtain ⟨d, _, member⟩ := List.mem_flatMap.mp h
  unfold encodeChar at member
  split at member
  · next plain =>
    obtain rfl := List.mem_singleton.mp member
    simp [isWritten, plain]
  · split at member
    · obtain rfl := List.mem_singleton.mp member
      rfl
    · exact isWritten_of_isEscape (Percent.isEscape_of_mem_flatMap member)

theorem not_mem_encode {c : Char} (h : isWritten c = false) (s : List Char) : c ∉ encode s := by
  intro member
  rw [isWritten_of_mem_encode member] at h
  cases h

/-! ### Texts -/

def blankForPlus (c : Char) : Char :=
  if c = '+' then ' ' else c

theorem map_blankForPlus_of_isEscape {s : List Char} (h : ∀ c ∈ s, Percent.isEscape c = true) :
    s.map blankForPlus = s := by
  have kept : ∀ c ∈ s, blankForPlus c = id c := by
    intro c member
    have escape := h c member
    apply if_neg
    rintro rfl
    cases escape
  rw [List.map_congr_left kept, List.map_id]

theorem decode_encodeChar_append (c : Char) (rest : List Char) :
    Percent.decode ((encodeChar c ++ rest).map blankForPlus) =
      Utf8.encodeChar c ++ Percent.decode (rest.map blankForPlus) := by
  rw [List.map_append]
  unfold encodeChar
  split
  · next plain =>
    have noPlus : c ≠ '+' := by rintro rfl; cases plain
    have noPercent : c ≠ '%' := by rintro rfl; cases plain
    rw [List.map_singleton, blankForPlus, if_neg noPlus, List.singleton_append,
      Percent.decode_cons_of_ne noPercent]
  · split
    · next blank =>
      subst blank
      exact Percent.decode_cons_of_ne (by decide) _
    · rw [map_blankForPlus_of_isEscape fun d h => Percent.isEscape_of_mem_flatMap h,
        Percent.decode_flatMap_encodeByte_append]

theorem percentDecode_encode (s : List Char) :
    Percent.decode ((encode s).map blankForPlus) = Utf8.encode s := by
  induction s with
  | nil => rfl
  | cons c s ih =>
    rw [encode, List.flatMap_cons, decode_encodeChar_append]
    exact congrArg (Utf8.encodeChar c ++ ·) ih

theorem decode_encode (s : List Char) : decode (encode s) = s := by
  have bytes := percentDecode_encode s
  exact (congrArg Utf8.decodeLossy bytes).trans (Utf8.decodeLossy_encode s)

/-! ### Pairs -/

theorem readPair_writePair (pair : List Char × List Char) : readPair (writePair pair) = pair := by
  obtain ⟨key, value⟩ := pair
  have free : '=' ∉ encode key := not_mem_encode rfl key
  simp only [readPair, writePair, cut_append_cons free, Option.getD_some, decode_encode]

theorem isWritten_of_mem_writePair {pair : List Char × List Char} {c : Char}
    (h : c ∈ writePair pair) : isWritten c = true ∨ c = '=' := by
  simp only [writePair, List.mem_append, List.mem_cons] at h
  rcases h with key | separator | value
  · exact Or.inl (isWritten_of_mem_encode key)
  · exact Or.inr separator
  · exact Or.inl (isWritten_of_mem_encode value)

theorem writePair_free (pair : List Char × List Char) :
    ∀ c ∈ writePair pair, (c == '&') = false := by
  intro c member
  rcases isWritten_of_mem_writePair member with written | rfl
  · rw [beq_eq_false_iff_ne]
    rintro rfl
    cases written
  · rfl

theorem isEmpty_writePair (pair : List Char × List Char) : (writePair pair).isEmpty = false := by
  simp [writePair]

theorem splitAt_write {pairs : List (List Char × List Char)} (some : pairs ≠ []) :
    splitAt (· == '&') (write pairs) = pairs.map writePair := by
  induction pairs with
  | nil => exact (some rfl).elim
  | cons pair later ih =>
    cases later with
    | nil => exact splitAt_of_none (writePair_free pair)
    | cons next later =>
      rw [write, splitAt_append_cons (writePair_free pair) rfl, ih (by simp)]
      · rfl
      · simp

theorem read_write (pairs : List (List Char × List Char)) : read (write pairs) = pairs := by
  by_cases none : pairs = []
  · subst none; rfl
  · have kept : ∀ part ∈ pairs.map writePair, (!part.isEmpty) = true := by
      intro part member
      obtain ⟨pair, _, rfl⟩ := List.mem_map.mp member
      simp [isEmpty_writePair]
    rw [read, splitAt_write none, List.filter_eq_self.mpr kept, List.map_map]
    exact List.map_id'' readPair_writePair pairs

/-- Nothing that marks the end of a query is written. -/
theorem not_mem_write {c : Char} (written : isWritten c = false) (equals : c ≠ '=')
    (ampersand : c ≠ '&') (pairs : List (List Char × List Char)) : c ∉ write pairs := by
  have pairFree : ∀ pair, c ∉ writePair pair := by
    intro pair member
    rcases isWritten_of_mem_writePair member with h | h
    · rw [written] at h; cases h
    · exact equals h
  induction pairs with
  | nil => exact List.not_mem_nil
  | cons pair later ih =>
    cases later with
    | nil => exact pairFree pair
    | cons next later =>
      simp only [write, List.mem_append, List.mem_cons, not_or]
      exact ⟨pairFree pair, ampersand, ih⟩

end OrderLookup.Url.Form
