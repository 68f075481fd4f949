import OrderLookup.Proofs.Json.Meaning
import OrderLookup.Proofs.Json.Quoted
import OrderLookup.Proofs.Json.Token

/-!
# Codecs read what values mean

`Codec.text_reads`, `Codec.integer_reads` and `Codec.nullable_reads`: each accepts just the values
that mean something, and leaves what follows them.
-/

namespace OrderLookup.Json

/-! ### Steps of readers -/

theorem ok_bind {α β : Type} (a : α) (f : α → Except Failure β) : (Except.ok a >>= f) = f a := rfl

theorem bind_eq_ok {α β : Type} {x : Except Failure α} {f : α → Except Failure β} {b : β} :
    x >>= f = .ok b ↔ ∃ a, x = .ok a ∧ f a = .ok b := by
  cases x with
  | error e => exact ⟨nofun, fun ⟨_, h, _⟩ => nomatch h⟩
  | ok a =>
    rw [ok_bind]
    constructor
    · exact fun h => ⟨a, rfl, h⟩
    · rintro ⟨_, same, h⟩
      obtain rfl := Except.ok.inj same
      exact h

theorem nextByte_mark {b : UInt8} (token : isBlank b = false) {gap : List UInt8}
    (blank : Blank gap) (t : List UInt8) : nextByte (gap ++ b :: t) = .ok (b, t) := by
  rw [nextByte_append blank, nextByte_cons token]

namespace Value

variable {v : Value}

theorem eq_null_of_starts (h : v.Starts (ascii 'n')) : v = .null := by
  cases v with
  | null => rfl
  | boolean value | number value => cases value <;> simp +decide [Starts] at h
  | string | array | object => simp +decide [Starts] at h

theorem eq_string_of_starts (h : v.Starts (ascii '"')) : ∃ text, v = .string text := by
  cases v with
  | string text => exact ⟨text, rfl⟩
  | boolean value | number value => cases value <;> simp +decide [Starts] at h
  | null | array | object => simp +decide [Starts] at h

theorem eq_array_of_starts (h : v.Starts (ascii '[')) : ∃ vs, v = .array vs := by
  cases v with
  | array vs => exact ⟨vs, rfl⟩
  | boolean value | number value => cases value <;> simp +decide [Starts] at h
  | null | string | object => simp +decide [Starts] at h

theorem eq_object_of_starts (h : v.Starts (ascii '{')) : ∃ ms, v = .object ms := by
  cases v with
  | object ms => exact ⟨ms, rfl⟩
  | boolean value | number value => cases value <;> simp +decide [Starts] at h
  | null | string | array => simp +decide [Starts] at h

theorem eq_number_of_starts {b : UInt8} (h : v.Starts b)
    (numeral : b = ascii '-' ∨ isDigit b = true) : ∃ minus l, v = .number minus l := by
  cases v with
  | number minus l => exact ⟨minus, l, rfl⟩
  | boolean value =>
    cases value <;> obtain rfl : b = _ := h <;> exact absurd numeral (by decide)
  | null | string | array | object =>
    obtain rfl : b = _ := h
    exact absurd numeral (by decide)

end Value

namespace Codec

variable {β : Type} {c : Codec β} {m : Meaning β}

theorem text_read {gap : List UInt8} (blank : Blank gap) {b : UInt8} (token : isBlank b = false)
    (t : List UInt8) :
    text.read (gap ++ b :: t) =
      if b = ascii '"' then readQuoted t else .error (refuse .text b t) := by
  change (nextByte (gap ++ b :: t) >>= _) = _
  rw [nextByte_mark token blank]
  rfl

theorem text_reads : text.Reads Meaning.text := by
  intro v s h gap rest blank _ found r
  by_cases string : ∃ content, v = .string content
  · obtain ⟨content, rfl⟩ := string
    cases h with
    | string quoted =>
      obtain ⟨t, rfl, read⟩ := quoted.read_iff
      rw [List.cons_append, text_read blank (by decide), if_pos rfl, read, Meaning.text]
      simp
  · obtain ⟨b, t, rfl, starts⟩ := h.starts
    have other : b ≠ ascii '"' := by
      rintro rfl
      exact string (Value.eq_string_of_starts starts)
    rw [List.cons_append, text_read blank starts.between.1, if_neg other]
    exact ⟨nofun, fun ⟨same, _⟩ => (string ⟨_, same⟩).elim⟩

/-! ### Integers -/

theorem toInt_ofInt {z : Int} (lower : -0x8000000000000000 ≤ z) (upper : z < 0x8000000000000000) :
    (Int64.ofInt z).toInt = z :=
  Int64.toInt_ofInt_of_le lower upper

/-- A numeral that is computed as a real is no integer. -/
theorem real_not_int64 {magnitude : Option UInt64} {z : Int64} :
    ¬∃ n, magnitude.map Numeral.real = some n ∧ int64? n = .ok z := by
  rintro ⟨n, found, read⟩
  obtain ⟨bits, _, rfl⟩ := Option.map_eq_some_iff.mp found
  cases read

theorem numeral?_real (minus : Bool) {l : Literal} (h : ¬(l.fraction = [] ∧ l.exponent = none)) :
    ∃ magnitude : Option UInt64, l.numeral? minus = magnitude.map Numeral.real := by
  have integer : (l.fraction.isEmpty && l.exponent.isNone) = false := by
    rw [Bool.eq_false_iff, ne_eq, Bool.and_eq_true, List.isEmpty_iff, Option.isNone_iff_eq_none]
    exact h
  refine ⟨l.magnitude?.map fun f => (if minus then -f else f).toBits, ?_⟩
  rw [Literal.numeral?, integer, Option.map_map]
  rfl

/-- An integer literal that does not fit is computed as a real. -/
theorem numeral?_large (minus : Bool) (digits : List UInt8)
    (h : if minus then Literal.natOf digits = 0 ∨ 0x8000000000000000 < Literal.natOf digits
      else 0x10000000000000000 ≤ Literal.natOf digits) :
    ∃ magnitude : Option UInt64,
      (Literal.mk digits [] none).numeral? minus = magnitude.map Numeral.real := by
  refine ⟨(Literal.mk digits [] none).magnitude?.map
    fun f => (if minus then -f else f).toBits, ?_⟩
  rw [Literal.numeral?, Option.map_map]
  cases minus with
  | true =>
    have misfit : ¬(0 < Literal.natOf digits ∧ Literal.natOf digits ≤ 0x8000000000000000) := by
      simp only [if_true] at h
      omega
    simp only [List.isEmpty_nil, Option.isNone_none, Bool.and_self, Bool.not_true, Bool.and_false,
      Bool.false_and, Bool.false_eq_true, if_false, Bool.true_and, Bool.and_eq_true,
      decide_eq_true_eq, if_neg misfit]
    rfl
  | false =>
    have misfit : ¬Literal.natOf digits < 0x10000000000000000 := Nat.not_lt.mpr h
    simp only [List.isEmpty_nil, Option.isNone_none, Bool.and_self, Bool.not_false, Bool.true_and,
      decide_eq_true_eq, if_neg misfit, Bool.and_false, Bool.false_and, Bool.false_eq_true,
      if_false]
    rfl

theorem whole_iff {digits : List UInt8} {z : Int64} :
    (∃ n, (Literal.mk digits [] none).numeral? false = some n ∧ int64? n = .ok z) ↔
      z.toInt = Literal.natOf digits := by
  have upper := z.toInt_lt
  by_cases fits : Literal.natOf digits < 0x10000000000000000
  · have numeral : (Literal.mk digits [] none).numeral? false =
        some (.whole (Literal.natOf digits)) := by
      simp [Literal.numeral?, fits]
    rw [numeral]
    constructor
    · rintro ⟨n, same, read⟩
      obtain rfl := Option.some.inj same
      rw [int64?] at read
      split at read
      · obtain rfl := Except.ok.inj read
        exact toInt_ofInt (by omega) (by omega)
      · cases read
    · intro same
      refine ⟨_, rfl, ?_⟩
      rw [int64?, if_pos (by omega), ← same, Int64.ofInt_toInt]
  · obtain ⟨magnitude, real⟩ := numeral?_large false digits (Nat.not_lt.mp fits)
    rw [real]
    exact ⟨fun h => (real_not_int64 h).elim, by omega⟩

theorem negative_iff {digits : List UInt8} {z : Int64} :
    (∃ n, (Literal.mk digits [] none).numeral? true = some n ∧ int64? n = .ok z) ↔
      Literal.natOf digits ≠ 0 ∧ z.toInt = -(Literal.natOf digits : Int) := by
  have lower := z.le_toInt
  by_cases fits : 0 < Literal.natOf digits ∧ Literal.natOf digits ≤ 0x8000000000000000
  · have numeral : (Literal.mk digits [] none).numeral? true =
        some (.negative (Literal.natOf digits)) := by
      simp [Literal.numeral?, fits]
    rw [numeral]
    constructor
    · rintro ⟨n, same, read⟩
      obtain rfl := Option.some.inj same
      obtain rfl := Except.ok.inj read
      exact ⟨by omega, toInt_ofInt (by omega) (by omega)⟩
    · rintro ⟨_, same⟩
      refine ⟨_, rfl, ?_⟩
      rw [int64?, ← same, Int64.ofInt_toInt]
  · have large : Literal.natOf digits = 0 ∨ 0x8000000000000000 < Literal.natOf digits := by omega
    obtain ⟨magnitude, real⟩ := numeral?_large true digits large
    rw [real]
    exact ⟨fun h => (real_not_int64 h).elim, by omega⟩

theorem numeral_iff {minus : Bool} {l : Literal} {z : Int64} :
    (∃ n, l.numeral? minus = some n ∧ int64? n = .ok z) ↔
      Meaning.integer (.number minus l) z := by
  by_cases integer : l.fraction = [] ∧ l.exponent = none
  · obtain ⟨digits, fraction, exponent⟩ := l
    obtain ⟨rfl, rfl⟩ := integer
    have means : Meaning.integer (.number minus ⟨digits, [], none⟩) z ↔
        (minus = true → Literal.natOf digits ≠ 0) ∧
          z.toInt = if minus then -(Literal.natOf digits : Int) else Literal.natOf digits := by
      constructor
      · rintro ⟨_, _, same, h⟩
        cases same
        exact h
      · exact fun h => ⟨minus, digits, rfl, h⟩
    rw [means]
    cases minus with
    | true => simpa using negative_iff
    | false => simpa using whole_iff
  · obtain ⟨magnitude, real⟩ := numeral?_real minus integer
    rw [real]
    refine ⟨fun h => (real_not_int64 h).elim, ?_⟩
    rintro ⟨_, _, same, _⟩
    cases same
    exact (integer ⟨rfl, rfl⟩).elim

def storeInteger (p : Numeral × List UInt8) : Except Failure (Int64 × List UInt8) :=
  match int64? p.1 with
  | .ok z => .ok (z, p.2)
  | .error cause => .error (.mismatch cause)

theorem readNumeral_iff {minus : Bool} {l : Literal} {s rest : List UInt8}
    (h : Literal.read s = .ok (l, rest)) {z : Int64} {r : List UInt8} :
    readNumeral minus s >>= storeInteger = .ok (z, r) ↔
      Meaning.integer (.number minus l) z ∧ r = rest := by
  rw [← numeral_iff, readNumeral, h, ok_bind]
  dsimp only
  cases l.numeral? minus with
  | none =>
    constructor
    · intro same
      cases same
    · rintro ⟨⟨_, same, _⟩, _⟩
      cases same
  | some n =>
    change storeInteger (n, rest) = .ok (z, r) ↔ _
    rw [storeInteger]
    cases read : int64? n with
    | error cause =>
      refine ⟨nofun, ?_⟩
      rintro ⟨⟨_, same, other⟩, _⟩
      obtain rfl := Option.some.inj same
      rw [read] at other
      cases other
    | ok y =>
      constructor
      · intro same
        obtain ⟨rfl, rfl⟩ := Prod.mk.inj (Except.ok.inj same)
        exact ⟨⟨n, rfl, read⟩, rfl⟩
      · rintro ⟨⟨_, same, other⟩, rfl⟩
        obtain rfl := Option.some.inj same
        rw [read] at other
        obtain rfl := Except.ok.inj other
        rfl

theorem integer_read {gap : List UInt8} (blank : Blank gap) {b : UInt8} (token : isBlank b = false)
    (t : List UInt8) :
    integer.read (gap ++ b :: t) =
      if b = ascii '-' then readNumeral true t >>= storeInteger
      else if isDigit b then readNumeral false (b :: t) >>= storeInteger
      else .error (refuse .integer b t) := by
  change (nextByte (gap ++ b :: t) >>= _) = _
  rw [nextByte_mark token blank, ok_bind]
  have store (x : Except Failure (Numeral × List UInt8)) : x >>= storeInteger =
      x >>= fun p => match int64? p.1 with
        | .ok z => pure (z, p.2)
        | .error cause => throw (.mismatch cause) := by
    cases x with
    | error e => rfl
    | ok p =>
      rw [ok_bind, ok_bind, storeInteger]
      cases int64? p.1 <;> rfl
  rw [store, store]
  dsimp only
  split
  · rfl
  · split <;> rfl

theorem integer_reads : integer.Reads Meaning.integer := by
  intro v s h gap rest blank ends z r
  by_cases number : ∃ minus l, v = .number minus l
  · obtain ⟨minus, l, rfl⟩ := number
    cases h with
    | number minus valid power =>
      have literal := Literal.read_eq valid power ends
      rw [← readNumeral_iff literal]
      cases minus with
      | true =>
        simp only [if_true, List.append_assoc, List.cons_append, List.nil_append]
        rw [integer_read blank (by decide), if_pos rfl]
      | false =>
        obtain ⟨d, ds, whole⟩ := List.exists_cons_of_ne_nil valid.1.1
        have digit : isDigit d = true := valid.1.2 d (whole ▸ List.mem_cons_self)
        simp only [Bool.false_eq_true, if_false, List.nil_append, List.append_assoc, whole,
          List.cons_append]
        rw [integer_read blank (isBlank_of_isDigit digit), if_neg (ne_of_isDigit digit (by decide)),
          if_pos digit]
  · obtain ⟨b, t, rfl, starts⟩ := h.starts
    have noMinus : b ≠ ascii '-' := fun same =>
      number (Value.eq_number_of_starts starts (Or.inl same))
    have noDigit : ¬isDigit b = true := fun digit =>
      number (Value.eq_number_of_starts starts (Or.inr digit))
    rw [List.cons_append, integer_read blank starts.between.1, if_neg noMinus, if_neg noDigit]
    refine ⟨nofun, ?_⟩
    rintro ⟨⟨minus, digits, same, _⟩, _⟩
    exact (number ⟨_, _, same⟩).elim

/-! ### Null -/

theorem nullable_read (c : Codec β) {gap : List UInt8} (blank : Blank gap) {b : UInt8}
    (token : isBlank b = false) (t : List UInt8) :
    (nullable c).read (gap ++ b :: t) =
      if b = ascii 'n' then word (asciiBytes "ull") t >>= fun rest => .ok (none, rest)
      else c.read (b :: t) >>= fun p => .ok (some p.1, p.2) := by
  change (nextByte (gap ++ b :: t) >>= _) = _
  rw [nextByte_mark token blank]
  rfl

theorem word_append (w rest : List UInt8) : word w (w ++ rest) = .ok rest := by
  induction w with
  | nil => rfl
  | cons b w ih => rw [List.cons_append, word, if_pos rfl, ih]

theorem nullable_reads (reads : c.Reads m) : (nullable c).Reads (Meaning.nullable m) := by
  intro v s h gap rest blank ends o r
  by_cases null : v = .null
  · subst null
    cases h with
    | null =>
      change (nullable c).read (gap ++ ascii 'n' :: (asciiBytes "ull" ++ rest)) = _ ↔ _
      rw [nullable_read c blank (by decide), if_pos rfl, word_append, ok_bind]
      cases o with
      | none => simp [Meaning.nullable, eq_comm]
      | some b => simp [Meaning.nullable]
  · obtain ⟨b, t, rfl, starts⟩ := h.starts
    have other : b ≠ ascii 'n' := by
      rintro rfl
      exact null (Value.eq_null_of_starts starts)
    have read (a : β) (r : List UInt8) : c.read (b :: (t ++ rest)) = .ok (a, r) ↔
        m v a ∧ r = rest := reads h blank_nil ends a r
    rw [List.cons_append, nullable_read c blank starts.between.1, if_neg other, bind_eq_ok]
    simp only [Prod.exists, read]
    constructor
    · rintro ⟨a, _, ⟨means, rfl⟩, same⟩
      obtain ⟨rfl, rfl⟩ := Prod.mk.inj (Except.ok.inj same)
      exact ⟨⟨null, means⟩, rfl⟩
    · rintro ⟨means, rfl⟩
      cases o with
      | none => exact (null means).elim
      | some a => exact ⟨a, _, ⟨means.2, rfl⟩, rfl⟩

end Codec

end OrderLookup.Json
