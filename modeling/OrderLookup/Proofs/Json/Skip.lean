import OrderLookup.Proofs.Json.Quoted
import OrderLookup.Proofs.Json.Token

/-!
# Skipping well-formed values

`Spells.skipValue`: every well-formed value is passed over, to any depth and whatever its numerals
and strings hold. The induction is over the grammar, with any enclosures around the part at hand.
-/

namespace OrderLookup.Json

namespace Skip

/-- What follows a value: the end of skipping, or what encloses the value. -/
def resume (stack : List Enclosure) (rest : List UInt8) : Except Failure (List UInt8) :=
  if stack.isEmpty then .ok rest else run .after stack rest

theorem run_go {mode next : Skip} {stack inner : List Enclosure} {b : UInt8}
    (h : step mode stack b = .go next inner) (rest : List UInt8) :
    run mode stack (b :: rest) = run next inner rest := by
  rw [run, h]

theorem run_close {mode : Skip} {stack outer : List Enclosure} {b : UInt8}
    (h : step mode stack b = close outer) (rest : List UInt8) :
    run mode stack (b :: rest) = resume outer rest := by
  rw [run, h, close, resume]
  cases outer <;> rfl

/-! ### White space -/

def isGap : Skip → Bool
  | value | firstElement | firstKey | key | colon | after => true
  | _ => false

theorem step_blank {mode : Skip} (gap : isGap mode = true) (stack : List Enclosure) {b : UInt8}
    (h : isBlank b = true) : step mode stack b = .go mode stack := by
  cases mode with
  | value | firstElement | firstKey | key | colon => exact if_pos h
  | after => exact if_pos h
  | _ => cases gap

theorem run_blanks {mode : Skip} (gap : isGap mode = true) (stack : List Enclosure)
    {blanks : List UInt8} (h : Blank blanks) (rest : List UInt8) :
    run mode stack (blanks ++ rest) = run mode stack rest := by
  induction blanks with
  | nil => rfl
  | cons b blanks ih =>
    have ⟨now, later⟩ := List.forall_mem_cons.mp h
    rw [List.cons_append, run_go (step_blank gap stack now), ih later]

/-! ### Words and string literals -/

theorem run_word {w : UInt8} {ws : List UInt8} (stack : List Enclosure) (rest : List UInt8) :
    run (.word (w :: ws)) stack (w :: ws ++ rest) = resume stack rest := by
  induction ws generalizing w with
  | nil =>
    have last : step (.word [w]) stack w = close stack := if_pos rfl
    exact run_close last rest
  | cons v ws ih =>
    have next : step (.word (w :: v :: ws)) stack w = .go (.word (v :: ws)) stack := if_pos rfl
    rw [List.cons_append, run_go next, ih]

theorem step_plain {b : UInt8} (h : isPlainByte b = true) (isKey : Bool) (stack : List Enclosure) :
    step (.quoted isKey) stack b = .go (.quoted isKey) stack := by
  obtain ⟨quote, backslash, printable⟩ := isPlainByte_iff.mp h
  simp only [step, if_neg quote, if_neg backslash, if_neg printable]

theorem run_plain {bytes : List UInt8} (h : ∀ b ∈ bytes, isPlainByte b = true) (isKey : Bool)
    (stack : List Enclosure) (rest : List UInt8) :
    run (.quoted isKey) stack (bytes ++ rest) = run (.quoted isKey) stack rest := by
  induction bytes with
  | nil => rfl
  | cons b bytes ih =>
    have ⟨now, later⟩ := List.forall_mem_cons.mp h
    rw [List.cons_append, run_go (step_plain now isKey stack), ih later]

theorem run_piece {piece : Piece} (valid : piece.Valid) (isKey : Bool) (stack : List Enclosure)
    (rest : List UInt8) :
    run (.quoted isKey) stack (piece.bytes ++ rest) = run (.quoted isKey) stack rest := by
  cases piece with
  | plain c => exact run_plain (fun b => isPlainByte_of_mem valid) isKey stack rest
  | short letter meaning =>
    obtain ⟨b, escape, _, noUnit⟩ := Quote.shortEscape?_of_mem valid
    have letter : step (.escaped isKey) stack (ascii letter) = .go (.quoted isKey) stack := by
      rw [step, if_neg noUnit, escape]
      rfl
    change run (.quoted isKey) stack (ascii '\\' :: ascii _ :: rest) = _
    rw [run_go (by rfl), run_go letter]
  | unit a b c d =>
    simp only [Piece.Valid, List.forall_mem_cons] at valid
    obtain ⟨ha, hb, hc, hd, _⟩ := valid
    change run (.quoted isKey) stack (ascii '\\' :: ascii 'u' :: a :: b :: c :: d :: rest) = _
    rw [run_go (by rfl), run_go (by rfl)]
    simp [run, step, ha, hb, hc, hd]

theorem run_quoted {text : Option String} {s : List UInt8} (h : Quoted text s) (isKey : Bool)
    (stack : List Enclosure) :
    ∃ t, s = ascii '"' :: t ∧ ∀ rest, run (.quoted isKey) stack (t ++ rest) =
      if isKey then run .colon stack rest else resume stack rest := by
  obtain ⟨valid⟩ := h
  refine ⟨_, rfl, fun rest => ?_⟩
  rw [List.append_assoc, List.singleton_append]
  rename_i pieces
  induction pieces with
  | nil =>
    cases isKey with
    | true => exact run_go (by rfl) rest
    | false => exact run_close (by rfl) rest
  | cons piece pieces ih =>
    have ⟨now, later⟩ := List.forall_mem_cons.mp valid
    rw [List.flatMap_cons, List.append_assoc, run_piece now, ih later]

/-! ### Numerals -/

def isNumeralEnd : Skip → Bool
  | zero | whole | fraction | power => true
  | _ => false

theorem run_numeralEnd {mode : Skip} (ending : isNumeralEnd mode = true) (stack : List Enclosure)
    {rest : List UInt8} (ends : Ends rest) : run mode stack rest = resume stack rest := by
  cases rest with
  | nil => cases mode <;> cases ending <;> cases stack <;> rfl
  | cons b rest =>
    obtain ⟨digit, point, small, capital⟩ := isNumeralByte_iff.mp (ends b rfl)
    have stops : step mode stack b = afterNumeral stack b := by
      cases mode <;> cases ending <;>
        simp [step, digit, point, isExponentMark, small, capital]
    rw [run, stops, afterNumeral, resume]
    cases stack <;> rfl

theorem run_digits {mode : Skip} {stack : List Enclosure}
    (stays : ∀ b, isDigit b = true → step mode stack b = .go mode stack) {digits : List UInt8}
    (h : ∀ b ∈ digits, isDigit b = true) (rest : List UInt8) :
    run mode stack (digits ++ rest) = run mode stack rest := by
  induction digits with
  | nil => rfl
  | cons d digits ih =>
    have ⟨now, later⟩ := List.forall_mem_cons.mp h
    rw [List.cons_append, run_go (stays d now), ih later]

theorem run_power_digits {mode : Skip} {stack : List Enclosure}
    (enters : ∀ b, isDigit b = true → step mode stack b = .go .power stack) {digits : List UInt8}
    (h : Digits digits) {rest : List UInt8} (ends : Ends rest) :
    run mode stack (digits ++ rest) = resume stack rest := by
  obtain ⟨d, ds, rfl⟩ := List.exists_cons_of_ne_nil h.1
  have ⟨now, later⟩ := List.forall_mem_cons.mp h.2
  have stays : ∀ b, isDigit b = true → step .power stack b = .go .power stack :=
    fun b digit => if_pos digit
  rw [List.cons_append, run_go (enters d now), run_digits stays later,
    run_numeralEnd rfl stack ends]

theorem step_mark {mode : Skip} (before : mode = .zero ∨ mode = .whole ∨ mode = .fraction)
    (stack : List Enclosure) {mark : Char} (h : mark = 'e' ∨ mark = 'E') :
    step mode stack (ascii mark) = .go .exponent stack := by
  rcases before with rfl | rfl | rfl <;> rcases h with rfl | rfl <;> rfl

theorem step_exponent_digit {b : UInt8} (h : isDigit b = true) (stack : List Enclosure) :
    step .exponent stack b = .go .power stack := by
  have noSign : ¬(b = ascii '+' ∨ b = ascii '-') := by
    rintro (sign | sign)
    · exact ne_of_isDigit h (by decide) sign
    · exact ne_of_isDigit h (by decide) sign
  rw [step, if_neg noSign, if_pos h]

theorem run_exponent {mode : Skip} (before : mode = .zero ∨ mode = .whole ∨ mode = .fraction)
    (stack : List Enclosure) {exponent : Option (Bool × List UInt8)} {power rest : List UInt8}
    (h : Power exponent power)
    (valid : ∀ minus digits, exponent = some (minus, digits) → Digits digits) (ends : Ends rest) :
    run mode stack (power ++ rest) = resume stack rest := by
  have signed : ∀ b, isDigit b = true → step .exponentSign stack b = .go .power stack :=
    fun b digit => if_pos digit
  cases h with
  | none =>
    refine run_numeralEnd ?_ stack ends
    rcases before with rfl | rfl | rfl <;> rfl
  | plain mark digits =>
    rw [List.cons_append, run_go (step_mark before stack mark)]
    exact run_power_digits (fun b digit => step_exponent_digit digit stack) (valid _ _ rfl) ends
  | plus mark digits | minus mark digits =>
    rw [List.cons_append, List.cons_append, run_go (step_mark before stack mark), run_go (by rfl)]
    exact run_power_digits signed (valid _ _ rfl) ends

theorem step_digit {d : UInt8} (h : isDigit d = true) (nonzero : d ≠ ascii '0')
    {mode : Skip} (first : mode = .value ∨ mode = .sign) (stack : List Enclosure) :
    step mode stack d = .go .whole stack := by
  have other (b : UInt8) (no : isDigit b = false) : d ≠ b := ne_of_isDigit h no
  rcases first with rfl | rfl
  · rw [step, isBlank_of_isDigit h, if_neg (by decide), start, if_neg (other _ rfl),
      if_neg (other _ rfl), if_neg (other _ rfl), if_neg (other _ rfl), if_neg nonzero, if_pos h]
  · rw [step, if_neg nonzero, if_pos h]

theorem run_literal {l : Literal} (valid : l.Valid) {power : List UInt8}
    (h : Power l.exponent power) {mode : Skip} (first : mode = .value ∨ mode = .sign)
    (stack : List Enclosure) {rest : List UInt8} (ends : Ends rest) :
    run mode stack (l.whole ++ (pointed l.fraction ++ (power ++ rest))) = resume stack rest := by
  obtain ⟨⟨filled, digits⟩, zero, decimals, exponents⟩ := valid
  -- What is left after the digits before the point does not depend on whether they are a zero.
  have fraction : ∀ mode, mode = .zero ∨ mode = .whole →
      run mode stack (pointed l.fraction ++ (power ++ rest)) = resume stack rest := by
    intro mode before
    rw [pointed]
    split
    · refine run_exponent ?_ stack h exponents ends
      exact before.imp_right Or.inl
    · next more =>
      have point : step mode stack (ascii '.') = .go .point stack := by
        rcases before with rfl | rfl <;> rfl
      have stays : ∀ b, isDigit b = true → step .fraction stack b = .go .fraction stack :=
        fun b digit => if_pos digit
      obtain ⟨d, ds, same⟩ := List.exists_cons_of_ne_nil more
      rw [same] at decimals ⊢
      have ⟨now, later⟩ := List.forall_mem_cons.mp decimals
      have enters : step .point stack d = .go .fraction stack := if_pos now
      rw [List.cons_append, List.cons_append, run_go point, run_go enters, run_digits stays later]
      exact run_exponent (Or.inr (Or.inr rfl)) stack h exponents ends
  obtain ⟨d, ds, same⟩ := List.exists_cons_of_ne_nil filled
  rw [same] at digits zero ⊢
  have ⟨now, later⟩ := List.forall_mem_cons.mp digits
  by_cases nonzero : d = ascii '0'
  · obtain ⟨_, rfl⟩ := List.cons.inj (zero (congrArg Option.some nonzero))
    have leading : step mode stack d = .go .zero stack := by
      rcases first with rfl | rfl <;> rw [nonzero] <;> rfl
    rw [List.cons_append, List.nil_append, run_go leading]
    exact fraction .zero (Or.inl rfl)
  · have stays : ∀ b, isDigit b = true → step .whole stack b = .go .whole stack :=
      fun b digit => if_pos digit
    rw [List.cons_append, run_go (step_digit now nonzero first stack), run_digits stays later]
    exact fraction .whole (Or.inr rfl)

/-! ### Parts -/

/-- A part is passed over from the places where it may stand, whatever encloses it. What follows the
lists of an array or an object is their end. -/
def Passes : Part → List UInt8 → Prop
  | .value _, s => ∀ stack rest, Ends rest → run .value stack (s ++ rest) = resume stack rest
  | .padded _, s => ∀ mode, mode = .value ∨ mode = .firstElement → ∀ encloser outer rest,
      Ends rest → run mode (encloser :: outer) (s ++ rest) = run .after (encloser :: outer) rest
  | .elements vs, s => ∀ mode, vs ≠ [] ∧ mode = .value ∨ mode = .firstElement → ∀ outer rest,
      run mode (.array :: outer) (s ++ ascii ']' :: rest) = resume outer rest
  | .member _ _, s => ∀ mode, mode = .key ∨ mode = .firstKey → ∀ outer rest, Ends rest →
      run mode (.object :: outer) (s ++ rest) = run .after (.object :: outer) rest
  | .members ms, s => ∀ mode, ms ≠ [] ∧ mode = .key ∨ mode = .firstKey → ∀ outer rest,
      run mode (.object :: outer) (s ++ ascii '}' :: rest) = resume outer rest

theorem run_firstElement {v : Value} {b : UInt8} (h : v.Starts b) (stack : List Enclosure)
    (rest : List UInt8) :
    run .firstElement stack (b :: rest) = run .value stack (b :: rest) := by
  obtain ⟨token, bracket⟩ := h.between
  have same : step .firstElement stack b = step .value stack b := by
    simp only [step, token, if_neg bracket, Bool.false_eq_true, if_false]
  rw [run, run, same]

theorem step_quote {mode : Skip} (h : mode = .key ∨ mode = .firstKey) (stack : List Enclosure) :
    step mode stack (ascii '"') = .go (.quoted true) stack := by
  rcases h with rfl | rfl <;> rfl

theorem passes {part : Part} {s : List UInt8} (h : Spells part s) : Passes part s := by
  induction h with
  | null | true | false =>
    intro stack rest _
    exact (run_go (by rfl) _).trans (run_word stack rest)
  | number minus valid power =>
    intro stack rest ends
    cases minus with
    | true =>
      have sign : step .value stack (ascii '-') = .go .sign stack := rfl
      simp only [if_true, List.append_assoc, List.cons_append]
      rw [run_go sign]
      exact run_literal valid power (Or.inr rfl) stack ends
    | false =>
      simp only [Bool.false_eq_true, if_false, List.append_assoc, List.nil_append]
      exact run_literal valid power (Or.inl rfl) stack ends
  | string quoted =>
    intro stack rest _
    obtain ⟨t, rfl, closes⟩ := run_quoted quoted false stack
    have opens : step .value stack (ascii '"') = .go (.quoted false) stack := rfl
    rw [List.cons_append, run_go opens]
    exact closes rest
  | array h ih =>
    intro stack rest _
    have opens : step .value stack (ascii '[') = .go .firstElement (.array :: stack) := rfl
    rw [List.cons_append, run_go opens, List.append_assoc, List.singleton_append]
    exact ih .firstElement (Or.inr rfl) stack rest
  | object h ih =>
    intro stack rest _
    have opens : step .value stack (ascii '{') = .go .firstKey (.object :: stack) := rfl
    rw [List.cons_append, run_go opens, List.append_assoc, List.singleton_append]
    exact ih .firstKey (Or.inr rfl) stack rest
  | padded front h back ih =>
    intro mode place encloser outer rest ends
    obtain ⟨b, t, rfl, starts⟩ := h.starts
    have gap : isGap mode = true := by rcases place with rfl | rfl <;> rfl
    have value (tail : List UInt8) : run mode (encloser :: outer) (b :: t ++ tail) =
        run .value (encloser :: outer) (b :: t ++ tail) := by
      rcases place with rfl | rfl
      · rfl
      · exact run_firstElement starts _ _
    rw [List.append_assoc, List.append_assoc, run_blanks gap _ front, value,
      ih _ _ (ends_append back ends)]
    exact run_blanks rfl _ back rest
  | noElement blank =>
    intro mode place outer rest
    obtain rfl : mode = .firstElement := place.resolve_left fun some => some.1 rfl
    rw [run_blanks rfl _ blank]
    exact run_close (by rfl) rest
  | element h ih =>
    intro mode place outer rest
    rw [ih mode (place.imp_left And.right) .array outer _ (ends_cons (by decide) rest)]
    exact run_close (by rfl) rest
  | moreElements h later ih ihLater =>
    intro mode place outer rest
    rw [List.append_assoc, List.cons_append,
      ih mode (place.imp_left And.right) .array outer _ (ends_cons (by decide) _), run_go (by rfl)]
    exact ihLater .value (Or.inl ⟨by simp, rfl⟩) outer rest
  | keyed front quoted back h ih =>
    intro mode place outer rest ends
    have gap : isGap mode = true := by rcases place with rfl | rfl <;> rfl
    obtain ⟨t, rfl, closes⟩ := run_quoted quoted true (.object :: outer)
    simp only [List.append_assoc, List.cons_append]
    rw [run_blanks gap _ front, run_go (step_quote place _), closes, if_pos rfl,
      run_blanks rfl _ back, run_go (by rfl)]
    exact ih .value (Or.inl rfl) .object outer rest ends
  | noMember blank =>
    intro mode place outer rest
    obtain rfl : mode = .firstKey := place.resolve_left fun some => some.1 rfl
    rw [run_blanks rfl _ blank]
    exact run_close (by rfl) rest
  | member h ih =>
    intro mode place outer rest
    rw [ih mode (place.imp_left And.right) outer _ (ends_cons (by decide) rest)]
    exact run_close (by rfl) rest
  | moreMembers h later ih ihLater =>
    intro mode place outer rest
    rw [List.append_assoc, List.cons_append,
      ih mode (place.imp_left And.right) outer _ (ends_cons (by decide) _), run_go (by rfl)]
    exact ihLater .key (Or.inl ⟨by simp, rfl⟩) outer rest

end Skip

/-- A value that is not read is passed over, with the white space before it. -/
theorem Spells.skipValue {v : Value} {s : List UInt8} (h : Spells (.value v) s)
    {gap : List UInt8} (blank : Blank gap) {rest : List UInt8} (ends : Ends rest) :
    skipValue (gap ++ (s ++ rest)) = .ok rest := by
  rw [Json.skipValue, Skip.run_blanks rfl [] blank]
  exact Skip.passes h [] rest ends

end OrderLookup.Json
