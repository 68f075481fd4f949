import OrderLookup.Json.Codec
import OrderLookup.Proofs.Json.Grammar
import OrderLookup.Proofs.Text.Split

/-!
# Where tokens start and end

White space before a token is passed over, the first byte of a value tells its kind
(`Spells.starts`), and a numeral is read whole when nothing that continues it follows
(`Literal.read_eq`).
-/

namespace OrderLookup.Json

/-! ### White space -/

theorem skipBlanks_append {gap : List UInt8} (h : Blank gap) (s : List UInt8) :
    skipBlanks (gap ++ s) = skipBlanks s :=
  List.dropWhile_append_of_pos h

theorem nextByte_append {gap : List UInt8} (h : Blank gap) (s : List UInt8) :
    nextByte (gap ++ s) = nextByte s := by
  rw [nextByte, nextByte, skipBlanks_append h]

theorem nextByte_cons {b : UInt8} (token : isBlank b = false) (s : List UInt8) :
    nextByte (b :: s) = .ok (b, s) := by
  rw [nextByte, skipBlanks, List.dropWhile_cons_of_neg (by simp [token])]

theorem blank_nil : Blank [] := by simp [Blank]

theorem Blank.append {first second : List UInt8} (h : Blank first) (h' : Blank second) :
    Blank (first ++ second) := by
  intro b member
  exact (List.mem_append.mp member).elim (h b) (h' b)

/-! ### Ends of numerals -/

def isNumeralByte (b : UInt8) : Bool :=
  isDigit b || b = ascii '.' || b = ascii 'e' || b = ascii 'E'

def Ends (s : List UInt8) : Prop :=
  ∀ b ∈ s.head?, isNumeralByte b = false

theorem isNumeralByte_iff {b : UInt8} :
    isNumeralByte b = false ↔
      isDigit b = false ∧ b ≠ ascii '.' ∧ b ≠ ascii 'e' ∧ b ≠ ascii 'E' := by
  simp [isNumeralByte, and_assoc]

theorem isNumeralByte_of_isBlank {b : UInt8} (h : isBlank b = true) : isNumeralByte b = false := by
  simp only [isBlank, Bool.or_eq_true, decide_eq_true_eq] at h
  rcases h with ((rfl | rfl) | rfl) | rfl <;> decide

theorem ends_append {gap : List UInt8} (h : Blank gap) {s : List UInt8} (ends : Ends s) :
    Ends (gap ++ s) := by
  cases gap with
  | nil => exact ends
  | cons b gap =>
    intro d member
    obtain rfl := Option.some.inj member
    exact isNumeralByte_of_isBlank (h _ List.mem_cons_self)

theorem ends_cons {b : UInt8} (h : isNumeralByte b = false) (s : List UInt8) : Ends (b :: s) := by
  intro d member
  obtain rfl := Option.some.inj member
  exact h

theorem ends_nil : Ends [] := nofun

/-! ### First bytes of values -/

def Value.Starts : Value → UInt8 → Prop
  | .null, b => b = ascii 'n'
  | .boolean value, b => b = if value then ascii 't' else ascii 'f'
  | .number minus _, b => if minus then b = ascii '-' else isDigit b = true
  | .string _, b => b = ascii '"'
  | .array _, b => b = ascii '['
  | .object _, b => b = ascii '{'

theorem Spells.starts {v : Value} {s : List UInt8} (h : Spells (.value v) s) :
    ∃ b t, s = b :: t ∧ v.Starts b := by
  cases h with
  | null => exact ⟨_, _, rfl, rfl⟩
  | true => exact ⟨_, _, rfl, rfl⟩
  | false => exact ⟨_, _, rfl, rfl⟩
  | number minus valid power =>
    cases minus with
    | true => exact ⟨_, _, rfl, rfl⟩
    | false =>
      obtain ⟨⟨some, digits⟩, _⟩ := valid
      obtain ⟨d, ds, whole⟩ := List.exists_cons_of_ne_nil some
      rw [whole] at digits ⊢
      exact ⟨d, _, rfl, digits d List.mem_cons_self⟩
  | string quoted =>
    obtain ⟨_⟩ := quoted
    exact ⟨_, _, rfl, rfl⟩
  | array => exact ⟨_, _, rfl, rfl⟩
  | object => exact ⟨_, _, rfl, rfl⟩

theorem isBlank_of_isDigit {b : UInt8} (h : isDigit b = true) : isBlank b = false := by
  cases blank : isBlank b with
  | false => rfl
  | true =>
    simp only [isBlank, Bool.or_eq_true, decide_eq_true_eq] at blank
    rcases blank with ((rfl | rfl) | rfl) | rfl <;> revert h <;> decide

theorem ne_of_isDigit {b d : UInt8} (h : isDigit b = true) (other : isDigit d = false) : b ≠ d := by
  rintro rfl
  rw [h] at other
  cases other

/-- A byte that starts a value is none of those that stand between values. -/
theorem Value.Starts.between {v : Value} {b : UInt8} (h : v.Starts b) :
    isBlank b = false ∧ b ≠ ascii ']' := by
  cases v with
  | null => obtain rfl : b = ascii 'n' := h; decide
  | boolean value =>
    cases value with
    | true => obtain rfl : b = ascii 't' := h; decide
    | false => obtain rfl : b = ascii 'f' := h; decide
  | number minus =>
    cases minus with
    | true => obtain rfl : b = ascii '-' := h; decide
    | false =>
      have digit : isDigit b = true := h
      exact ⟨isBlank_of_isDigit digit, ne_of_isDigit digit (by decide)⟩
  | string => obtain rfl : b = ascii '"' := h; decide
  | array => obtain rfl : b = ascii '[' := h; decide
  | object => obtain rfl : b = ascii '{' := h; decide

/-! ### Numerals -/

theorem Ends.noDigit {s : List UInt8} (h : Ends s) : ∀ b ∈ s.head?, isDigit b = false :=
  fun b member => (isNumeralByte_iff.mp (h b member)).1

theorem Power.head {exponent : Option (Bool × List UInt8)} {power : List UInt8}
    (h : Power exponent power) {rest : List UInt8} (ends : Ends rest) :
    ∀ b ∈ (power ++ rest).head?, isDigit b = false ∧ b ≠ ascii '.' := by
  cases h with
  | none =>
    intro b member
    have other := isNumeralByte_iff.mp (ends b member)
    exact ⟨other.1, other.2.1⟩
  | plain mark | plus mark | minus mark =>
    intro b member
    obtain rfl := Option.some.inj member
    rcases mark with rfl | rfl <;> decide

namespace Literal

theorem digits_append {found rest : List UInt8} (h : Digits found)
    (stop : ∀ b ∈ rest.head?, isDigit b = false) : digits (found ++ rest) = .ok (found, rest) := by
  obtain ⟨front, back⟩ := Text.takeWhile_append_stop h.2 stop
  rw [digits, front, back]
  exact if_neg (by simp [h.1])

theorem readExponent_plain {found rest : List UInt8} (h : Digits found)
    (stop : ∀ b ∈ rest.head?, isDigit b = false) :
    readExponent (found ++ rest) = .ok ((false, found), rest) := by
  obtain ⟨d, ds, same⟩ := List.exists_cons_of_ne_nil h.1
  have digit : isDigit d = true := h.2 d (same ▸ List.mem_cons_self)
  have noSign : ¬(d = ascii '+' ∨ d = ascii '-') := by
    rintro (sign | sign)
    · exact ne_of_isDigit digit (by decide) sign
    · exact ne_of_isDigit digit (by decide) sign
  have read := digits_append h stop
  rw [same, List.cons_append] at read ⊢
  rw [readExponent, if_neg noSign, read]
  rfl

theorem readExponent_signed {sign : Char} (either : sign = '+' ∨ sign = '-')
    {found rest : List UInt8} (h : Digits found) (stop : ∀ b ∈ rest.head?, isDigit b = false) :
    readExponent (ascii sign :: (found ++ rest)) = .ok ((decide (sign = '-'), found), rest) := by
  have read := digits_append h stop
  rcases either with rfl | rfl
  · rw [readExponent, if_pos (by decide), read]
    rfl
  · rw [readExponent, if_pos (by decide), read]
    rfl

theorem readPower_mark {mark : Char} (h : mark = 'e' ∨ mark = 'E') (s : List UInt8) :
    readPower (ascii mark :: s) =
      (readExponent s).map fun (power, rest) => (some power, rest) := by
  rcases h with rfl | rfl
  · rw [readPower, if_pos (by decide)]
    cases readExponent s <;> rfl
  · rw [readPower, if_pos (by decide)]
    cases readExponent s <;> rfl

theorem readPower_append {exponent : Option (Bool × List UInt8)} {power rest : List UInt8}
    (h : Power exponent power)
    (valid : ∀ minus digits, exponent = some (minus, digits) → Digits digits) (ends : Ends rest) :
    readPower (power ++ rest) = .ok (exponent, rest) := by
  cases h with
  | none =>
    cases rest with
    | nil => rfl
    | cons b rest =>
      obtain ⟨_, _, small, capital⟩ := isNumeralByte_iff.mp (ends b rfl)
      rw [List.nil_append, readPower, if_neg (by simp [small, capital])]
  | plain mark digits =>
    rw [List.cons_append, readPower_mark mark,
      readExponent_plain (valid _ _ rfl) ends.noDigit]
    rfl
  | plus mark digits =>
    rw [List.cons_append, List.cons_append, readPower_mark mark,
      readExponent_signed (Or.inl rfl) (valid _ _ rfl) ends.noDigit]
    rfl
  | minus mark digits =>
    rw [List.cons_append, List.cons_append, readPower_mark mark,
      readExponent_signed (Or.inr rfl) (valid _ _ rfl) ends.noDigit]
    rfl

theorem read_eq {l : Literal} (valid : l.Valid) {power rest : List UInt8}
    (h : Power l.exponent power) (ends : Ends rest) :
    read (l.whole ++ (pointed l.fraction ++ (power ++ rest))) = .ok (l, rest) := by
  obtain ⟨whole, fraction, exponent⟩ := l
  obtain ⟨digits, zero, decimals, exponents⟩ := valid
  dsimp only at h digits zero decimals exponents ⊢
  have noZero : ¬(whole.head? = some (ascii '0') ∧ whole.length ≠ 1) := by
    rintro ⟨first, longer⟩
    exact longer (congrArg List.length (zero first))
  have powerRead := readPower_append h exponents ends
  have head := h.head ends
  by_cases none : fraction = []
  · subst none
    change read (whole ++ (power ++ rest)) = _
    rw [read, digits_append digits fun b member => (head b member).1]
    simp only [bind, Except.bind]
    rw [if_neg noZero]
    cases joined : power ++ rest with
    | nil =>
      rw [joined] at powerRead
      cases powerRead
      rfl
    | cons b after =>
      rw [joined] at powerRead head
      dsimp only
      rw [if_neg (head b rfl).2, powerRead]
      rfl
  · have point : pointed fraction = ascii '.' :: fraction := if_neg none
    rw [point, List.cons_append, read,
      digits_append digits fun b member => by obtain rfl := Option.some.inj member; rfl]
    simp only [bind, Except.bind]
    rw [if_neg noZero, if_pos trivial,
      digits_append ⟨none, decimals⟩ fun b member => (head b member).1]
    dsimp only
    rw [powerRead]
    rfl

end Literal

end OrderLookup.Json
