import OrderLookup.Proofs.Json.Codec

/-!
# Bytes beyond ASCII

No byte beyond ASCII means anything to what passes over a value: each may as well be a letter
(`Skip.run_masked`).
-/

namespace OrderLookup.Json

/-- A byte as it counts where it is passed over: beyond ASCII it is like any letter. -/
def masked (b : UInt8) : UInt8 :=
  if b.toNat < 0x80 then b else ascii 'x'

theorem masked_lt (b : UInt8) : (masked b).toNat < 0x80 := by
  rw [masked]
  split
  · next small => exact small
  · decide

theorem masked_of_lt {b : UInt8} (h : b.toNat < 0x80) : masked b = b := if_pos h

theorem map_masked {s : List UInt8} (h : ∀ b ∈ s, b.toNat < 0x80) : s.map masked = s := by
  conv_rhs => rw [← List.map_id s]
  exact List.map_congr_left fun b member => masked_of_lt (h b member)

theorem lt_of_isBlank {b : UInt8} (h : isBlank b = true) : b.toNat < 0x80 := by
  simp only [isBlank, Bool.or_eq_true, decide_eq_true_eq] at h
  rcases h with ((rfl | rfl) | rfl) | rfl <;> decide

theorem lt_of_isDigit {b : UInt8} (h : isDigit b = true) : b.toNat < 0x80 := by
  simp only [isDigit, Bool.and_eq_true, decide_eq_true_eq, UInt8.le_iff_toNat_le] at h
  exact Nat.lt_of_le_of_lt h.2 (by decide)

theorem Blank.map_masked {gap : List UInt8} (h : Blank gap) : gap.map masked = gap :=
  Json.map_masked fun b member => lt_of_isBlank (h b member)

theorem map_masked_digits {ds : List UInt8} (h : ∀ b ∈ ds, isDigit b = true) :
    ds.map masked = ds :=
  map_masked fun b member => lt_of_isDigit (h b member)

theorem Literal.map_masked {l : Literal} (valid : l.Valid) {power : List UInt8}
    (h : Power l.exponent power) :
    (l.whole ++ (pointed l.fraction ++ power)).map masked =
      l.whole ++ (pointed l.fraction ++ power) := by
  obtain ⟨digits, _, decimals, exponents⟩ := valid
  have fraction : (pointed l.fraction).map masked = pointed l.fraction := by
    rw [pointed]
    split
    · rfl
    · rw [List.map_cons, map_masked_digits decimals]
      rfl
  have exponent : power.map masked = power := by
    generalize l.exponent = e at h exponents
    cases h with
    | none => rfl
    | plain mark ds =>
      rw [List.map_cons, map_masked_digits (exponents _ _ rfl).2]
      rcases mark with rfl | rfl <;> rfl
    | plus mark ds | minus mark ds =>
      rw [List.map_cons, List.map_cons, map_masked_digits (exponents _ _ rfl).2]
      rcases mark with rfl | rfl <;> rfl
  rw [List.map_append, List.map_append, map_masked_digits digits.2, fraction, exponent]

theorem lt_of_hexValue? {b : UInt8} (h : (hexValue? b).isSome = true) : b.toNat < 0x80 := by
  rw [hexValue?] at h
  split at h
  · next digit => exact lt_of_isDigit digit
  split at h
  · next letter =>
    simp only [Bool.and_eq_true, decide_eq_true_eq, UInt8.le_iff_toNat_le] at letter
    exact Nat.lt_of_le_of_lt letter.2 (by decide)
  split at h
  · next letter =>
    simp only [Bool.and_eq_true, decide_eq_true_eq, UInt8.le_iff_toNat_le] at letter
    exact Nat.lt_of_le_of_lt letter.2 (by decide)
  · cases h

theorem masked_letter {letter meaning : Char} (h : (letter, meaning) ∈ shortEscapes) :
    masked (ascii letter) = ascii letter := by
  have all : ∀ pair ∈ shortEscapes, masked (ascii pair.1) = ascii pair.1 := by decide
  exact all _ h

/-! ### What is passed over -/

namespace Skip

variable {stack : List Enclosure}

def marks : List Char :=
  ['n', 't', 'f', '-', '0', '"', '[', ']', '{', '\x7d', ',', ':', '\\', '/', 'b', 'r', 'u', '.',
    'e', 'E', '+']

theorem mem_marks {c : Char} (h : c ∈ marks) :
    (ascii c).toNat < 0x80 ∧ ascii c ≠ ascii 'x' := by
  have all : marks.all (fun c => decide ((ascii c).toNat < 0x80 ∧ ascii c ≠ ascii 'x')) = true := by
    decide
  exact of_decide_eq_true (List.all_eq_true.mp all c h)

/-- A byte that means nothing but itself. -/
structure Inert (b : UInt8) : Prop where
  blank : isBlank b = false
  digit : isDigit b = false
  hex : hexValue? b = none
  printable : ¬b < 0x20
  mark : ∀ c ∈ marks, b ≠ ascii c

theorem inert_letter : Inert (ascii 'x') where
  blank := by decide
  digit := by decide
  hex := by decide
  printable := by decide
  mark c member := (mem_marks member).2.symm

theorem inert_of_le {b : UInt8} (h : 0x80 ≤ b.toNat) : Inert b where
  blank := by
    rw [Bool.eq_false_iff]
    exact fun blank => absurd (lt_of_isBlank blank) (Nat.not_lt.mpr h)
  digit := by
    rw [Bool.eq_false_iff]
    exact fun digit => absurd (lt_of_isDigit digit) (Nat.not_lt.mpr h)
  hex := by
    rw [← Option.not_isSome_iff_eq_none]
    exact fun hex => absurd (lt_of_hexValue? hex) (Nat.not_lt.mpr h)
  printable := by
    rw [UInt8.lt_iff_toNat_lt]
    exact fun small => absurd (Nat.lt_trans small (by decide)) (Nat.not_lt.mpr h)
  mark c member same := absurd (same ▸ (mem_marks member).1) (Nat.not_lt.mpr h)

theorem Inert.step_eq {b d : UInt8} (h : Inert b) (h' : Inert d) {mode : Skip}
    (word : ∀ ws, mode ≠ .word ws) (stack : List Enclosure) :
    step mode stack b = step mode stack d := by
  obtain ⟨blank, digit, hex, printable, mark⟩ := h
  obtain ⟨blank', digit', hex', printable', mark'⟩ := h'
  simp only [marks, List.forall_mem_cons] at mark mark'
  cases mode with
  | word ws => exact (word ws rfl).elim
  | value | firstElement => simp [step, start, *]
  | firstKey | key | colon => simp [step, *]
  | after => simp [step, follow, *]
  | quoted | unit => simp [step, *]
  | escaped => simp [step, Quote.shortEscape?, *]
  | sign | point | exponent | exponentSign => simp [step, *]
  | zero | whole | fraction | power => simp [step, afterNumeral, follow, isExponentMark, *]

def Lettered (mode : Skip) : Prop :=
  ∀ ws, mode = .word ws → ∀ w ∈ ws, w.toNat < 0x80 ∧ w ≠ ascii 'x'

theorem step_masked {mode : Skip} (lettered : Lettered mode) (stack : List Enclosure) (b : UInt8) :
    step mode stack (masked b) = step mode stack b := by
  by_cases small : b.toNat < 0x80
  · rw [masked_of_lt small]
  have masks : masked b = ascii 'x' := if_neg small
  rw [masks]
  cases mode with
  | word ws =>
    cases ws with
    | nil => rfl
    | cons w ws =>
      obtain ⟨letter, noMask⟩ := lettered _ rfl w List.mem_cons_self
      have other : b ≠ w := by
        rintro rfl
        exact small letter
      rw [step, step, if_neg noMask.symm, if_neg other]
  | _ => exact inert_letter.step_eq (inert_of_le (Nat.not_lt.mp small)) (by simp) stack

theorem close_ne_word {outer inner : List Enclosure} {ws : List UInt8} :
    close outer ≠ .go (.word ws) inner := by
  rw [close]
  split <;> simp

theorem follow_ne_word {outer inner : List Enclosure} {ws : List UInt8} (b : UInt8) :
    follow outer b ≠ .go (.word ws) inner := by
  unfold follow
  repeat' split
  all_goals simp [close_ne_word]

theorem lettered_start {ws : List UInt8} {inner : List Enclosure} {b : UInt8}
    (h : start stack b = .go (.word ws) inner) : Lettered (.word ws) := by
  have letters : ∀ text ∈ ["ull", "rue", "alse"], Lettered (.word (asciiBytes text)) := by
    simp only [List.forall_mem_cons, Lettered, word.injEq, forall_eq']
    decide +kernel
  rw [start] at h
  split at h
  · cases h
    exact letters "ull" (by decide)
  split at h
  · cases h
    exact letters "rue" (by decide)
  split at h
  · cases h
    exact letters "alse" (by decide)
  repeat' split at h
  all_goals cases h

theorem Lettered.go {mode next : Skip} (lettered : Lettered mode) {inner : List Enclosure}
    {b : UInt8} (h : step mode stack b = .go next inner) : Lettered next := by
  rintro ws rfl
  cases mode with
  | word letters =>
    cases letters with
    | nil => cases h
    | cons w letters =>
      rw [step] at h
      split at h
      · split at h
        · exact (close_ne_word h).elim
        · cases h
          exact fun v member => lettered _ rfl v (List.mem_cons_of_mem _ member)
      · cases h
  | value | firstElement =>
    rw [step] at h
    repeat' split at h
    all_goals first
      | exact lettered_start h ws rfl
      | simp [close_ne_word] at h
  | zero | whole | fraction | power | after =>
    simp only [step, afterNumeral] at h
    repeat' split at h
    all_goals simp [follow_ne_word] at h
  | quoted | escaped | unit =>
    simp only [step, closeQuote] at h
    repeat' split at h
    all_goals simp [close_ne_word] at h
  | firstKey | key | colon | sign | point | exponent | exponentSign =>
    simp only [step] at h
    repeat' split at h
    all_goals simp [close_ne_word] at h

/-- What is passed over does not depend on what is masked. -/
theorem run_masked {mode : Skip} (lettered : Lettered mode) (stack : List Enclosure)
    (s : List UInt8) :
    run mode stack (s.map masked) = (run mode stack s).map (List.map masked) := by
  induction s generalizing mode stack with
  | nil =>
    rw [List.map_nil, run]
    unfold atEnd
    split
    · split <;> rfl
    · split <;> rfl
    · split <;> rfl
    · split <;> rfl
    all_goals rfl
  | cons b s ih =>
    rw [List.map_cons, run, run, step_masked lettered]
    cases next : step mode stack b with
    | go later inner => exact ih (lettered.go next) inner
    | ended | endedBefore | fail => rfl

end Skip

theorem Ends.masked {s : List UInt8} (h : Ends s) : Ends (s.map masked) := by
  intro d first
  cases s with
  | nil => cases first
  | cons b s =>
    obtain rfl := Option.some.inj first
    rw [Json.masked]
    split
    · exact h b rfl
    · decide

end OrderLookup.Json
