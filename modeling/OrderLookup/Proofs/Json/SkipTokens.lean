import OrderLookup.Proofs.Json.Inversion
import OrderLookup.Proofs.Json.Masked
import OrderLookup.Proofs.Json.Unquote

/-!
# Tokens that are passed over

Where a token is passed over, one is found: white space, words, string literals and numerals, with
any enclosures around them. What follows the token is `resume`d.
-/

namespace OrderLookup.Json

open OrderLookup.Text

namespace Skip

variable {stack : List Enclosure} {s r : List UInt8}

theorem run_fail {mode : Skip} {b : UInt8} (h : step mode stack b = .fail) :
    run mode stack (b :: s) ≠ .ok r := by
  intro passed
  rw [run, h] at passed
  cases passed

/-! ### White space and words -/

theorem exists_gap {mode : Skip} (gap : isGap mode = true) (h : run mode stack s = .ok r) :
    ∃ blanks b t, Blank blanks ∧ isBlank b = false ∧ s = blanks ++ b :: t ∧
      run mode stack (b :: t) = .ok r := by
  obtain ⟨blanks, rest, rfl, blank, token⟩ := exists_run isBlank s
  rw [run_blanks gap stack blank] at h
  cases rest with
  | nil =>
    cases mode with
    | value | firstElement | firstKey | key | colon | after => cases h
    | _ => cases gap
  | cons b t => exact ⟨blanks, b, t, blank, token b rfl, rfl, h⟩

theorem exists_word {w : UInt8} {ws : List UInt8} (h : run (.word (w :: ws)) stack s = .ok r) :
    ∃ t, s = w :: ws ++ t ∧ resume stack t = .ok r := by
  induction ws generalizing w s with
  | nil =>
    cases s with
    | nil => cases h
    | cons b s =>
      by_cases same : b = w
      · subst same
        have last : step (.word [b]) stack b = close stack := if_pos rfl
        rw [run_close last] at h
        exact ⟨s, rfl, h⟩
      · have other : step (.word [w]) stack b = .fail := if_neg same
        exact (run_fail other h).elim
  | cons v ws ih =>
    cases s with
    | nil => cases h
    | cons b s =>
      by_cases same : b = w
      · subst same
        have next : step (.word (b :: v :: ws)) stack b = .go (.word (v :: ws)) stack := if_pos rfl
        rw [run_go next] at h
        obtain ⟨t, rfl, ended⟩ := ih h
        exact ⟨t, rfl, ended⟩
      · have other : step (.word (w :: v :: ws)) stack b = .fail := if_neg same
        exact (run_fail other h).elim

/-! ### String literals -/

theorem exists_plain {b : UInt8} (h : isPlainByte b = true) :
    ∃ c, (Piece.plain c).Valid ∧ Piece.bytes (.plain c) = [masked b] := by
  have written : Utf8.encodeChar (Char.ofNat (masked b).toNat) = [masked b] :=
    Utf8.encodeChar_one (masked_lt b)
  refine ⟨_, Quote.valid_plain written ?_, written⟩
  rw [masked]
  split
  · exact h
  · decide

theorem exists_unit {isKey : Bool} (h : run (.unit isKey 0 true) stack s = .ok r) :
    ∃ a b c d t, s = a :: b :: c :: d :: t ∧ (Piece.unit a b c d).Valid ∧
      run (.quoted isKey) stack t = .ok r := by
  match s with
  | [] => cases h
  | [_] => cases h
  | [_, _] => cases h
  | [_, _, _] => cases h
  | a :: b :: c :: d :: t =>
    have last (valid : Bool) : step (.unit isKey 3 valid) stack d =
        if (valid && (hexValue? d).isSome) = true then .go (.quoted isKey) stack else .fail := rfl
    have unread : run (.unit isKey 0 true) stack (a :: b :: c :: d :: t) =
        run (.unit isKey 3 (((true && (hexValue? a).isSome) && (hexValue? b).isSome) &&
          (hexValue? c).isSome)) stack (d :: t) := rfl
    rw [unread, run, last] at h
    split at h
    · next goes =>
      split at goes
      · next valid =>
        cases goes
        refine ⟨a, b, c, d, t, rfl, ?_, h⟩
        simpa [Piece.Valid, and_assoc] using valid
      · cases goes
    · next goes => split at goes <;> cases goes
    · next goes => split at goes <;> cases goes
    · cases h

theorem step_backslash (isKey : Bool) (stack : List Enclosure) :
    step (.quoted isKey) stack (ascii '\\') = .go (.escaped isKey) stack := rfl

/-- How a string literal may go on: with its end, or a piece as it counts here. -/
theorem quoted_cases {isKey : Bool} (h : run (.quoted isKey) stack s = .ok r) :
    (∃ t, s = ascii '"' :: t ∧
      (if isKey then run .colon stack t else resume stack t) = .ok r) ∨
    ∃ (piece : Piece) (u t : List UInt8), piece.Valid ∧ s = u ++ t ∧ t.length < s.length ∧
      u.map masked = piece.bytes ∧ run (.quoted isKey) stack t = .ok r := by
  cases s with
  | nil => cases h
  | cons b s =>
  by_cases quote : b = ascii '"'
  · left
    subst quote
    refine ⟨s, rfl, ?_⟩
    cases isKey with
    | true => exact (run_go (by rfl) s).symm.trans h
    | false => exact (run_close (by rfl) s).symm.trans h
  right
  by_cases backslash : b = ascii '\\'
  · subst backslash
    rw [run_go (step_backslash isKey stack)] at h
    cases s with
    | nil => cases h
    | cons e s =>
    by_cases mark : e = ascii 'u'
    · have opens : step (.escaped isKey) stack e = .go (.unit isKey 0 true) stack := if_pos mark
      rw [run_go opens] at h
      obtain ⟨a, b, c, d, t, rfl, valid, later⟩ := exists_unit h
      refine ⟨.unit a b c d, [ascii '\\', e, a, b, c, d], t, valid, rfl, ?_, ?_, later⟩
      · simp only [List.length_cons]
        omega
      · simp only [Piece.Valid, List.forall_mem_cons] at valid
        obtain ⟨first, second, third, fourth, _⟩ := valid
        simp only [List.map_cons, List.map_nil, mark, masked_of_lt (lt_of_hexValue? first),
          masked_of_lt (lt_of_hexValue? second), masked_of_lt (lt_of_hexValue? third),
          masked_of_lt (lt_of_hexValue? fourth)]
        rfl
    · cases short : Quote.shortEscape? e with
      | some c =>
        have goes : step (.escaped isKey) stack e = .go (.quoted isKey) stack := by
          rw [step, if_neg mark, short]
          rfl
        rw [run_go goes] at h
        obtain ⟨letter, meaning, listed, rfl, _⟩ := Quote.shortEscape?_eq_some short
        refine ⟨.short letter meaning, [ascii '\\', ascii letter], s, listed, rfl, ?_, ?_, h⟩
        · simp only [List.length_cons]
          omega
        · simp only [List.map_cons, List.map_nil, masked_letter listed]
          rfl
      | none =>
        have fails : step (.escaped isKey) stack e = .fail := by
          rw [step, if_neg mark, short]
          rfl
        exact (run_fail fails h).elim
  by_cases printable : b < 0x20
  · have fails : step (.quoted isKey) stack b = .fail := by
      rw [step, if_neg quote, if_neg backslash, if_pos printable]
    exact (run_fail fails h).elim
  · have plain := isPlainByte_iff.mpr ⟨quote, backslash, printable⟩
    rw [run_go (step_plain plain isKey stack)] at h
    obtain ⟨c, valid, written⟩ := exists_plain plain
    exact ⟨.plain c, [b], s, valid, rfl, Nat.lt_succ_self _, written.symm, h⟩

theorem exists_pieces {isKey : Bool} (h : run (.quoted isKey) stack s = .ok r) :
    ∃ (pieces : List Piece) (u t : List UInt8), (∀ piece ∈ pieces, piece.Valid) ∧
      u.map masked = pieces.flatMap Piece.bytes ++ [ascii '"'] ∧ s = u ++ t ∧
      (if isKey then run .colon stack t else resume stack t) = .ok r := by
  -- By the length of what is left, since a piece may take several bytes.
  induction length : s.length using Nat.strong_induction_on generalizing s with
  | _ n ih =>
  subst length
  rcases quoted_cases h with ⟨t, rfl, ended⟩ | ⟨piece, u, t, valid, rfl, shorter, same, later⟩
  · exact ⟨[], [ascii '"'], t, nofun, rfl, rfl, ended⟩
  · obtain ⟨pieces, v, t, valid', same', rfl, ended⟩ := ih _ shorter later rfl
    refine ⟨piece :: pieces, u ++ v, t, List.forall_mem_cons.mpr ⟨valid, valid'⟩, ?_, ?_, ended⟩
    · rw [List.map_append, same, same', List.flatMap_cons, List.append_assoc]
    · rw [List.append_assoc]

/-- A string literal is found up to its end. -/
theorem exists_quoted {isKey : Bool} (h : run (.quoted isKey) stack s = .ok r) :
    ∃ text u t, Quoted text ((ascii '"' :: u).map masked) ∧ s = u ++ t ∧
      (if isKey then run .colon stack t else resume stack t) = .ok r := by
  obtain ⟨pieces, u, t, valid, same, split, ended⟩ := exists_pieces h
  have quoted := Quoted.intro valid
  rw [← same] at quoted
  exact ⟨_, u, t, quoted, split, ended⟩

/-! ### Numerals -/

theorem run_afterNumeral {mode : Skip} {b : UInt8}
    (stops : step mode stack b = afterNumeral stack b) (t : List UInt8) :
    run mode stack (b :: t) = resume stack (b :: t) := by
  rw [run, stops, afterNumeral, resume]
  cases stack <;> rfl

/-- Digits that a mode stays in, and what it does after them. -/
theorem exists_digits {mode : Skip}
    (stays : ∀ b, isDigit b = true → step mode stack b = .go mode stack)
    (h : run mode stack s = .ok r) :
    ∃ ds t, (∀ b ∈ ds, isDigit b = true) ∧ s = ds ++ t ∧ (∀ b ∈ t.head?, isDigit b = false) ∧
      run mode stack t = .ok r := by
  obtain ⟨ds, t, rfl, digits, last⟩ := exists_run isDigit s
  rw [run_digits stays digits] at h
  exact ⟨ds, t, digits, rfl, last, h⟩

def Exponent (stack : List Enclosure) (s r : List UInt8) : Prop :=
  ∃ exponent power t, Power exponent power ∧
    (∀ minus digits, exponent = some (minus, digits) → Digits digits) ∧ s = power ++ t ∧
    resume stack t = .ok r

theorem Exponent.of_power {minus : Bool} {ds power t : List UInt8}
    (written : Power (some (minus, ds)) power) (digits : Digits ds)
    (ended : resume stack t = .ok r) : Exponent stack (power ++ t) r := by
  refine ⟨_, power, t, written, ?_, rfl, ended⟩
  rintro _ _ ⟨⟩
  exact digits

theorem Exponent.of_resume (h : resume stack s = .ok r) : Exponent stack s r :=
  ⟨none, [], s, .none, nofun, rfl, h⟩

theorem run_power_end (last : ∀ b ∈ s.head?, isDigit b = false) :
    run .power stack s = resume stack s := by
  cases s with
  | nil => exact run_numeralEnd rfl stack ends_nil
  | cons b s =>
    refine run_afterNumeral ?_ s
    rw [step, last b rfl]
    rfl

theorem exists_power {mode : Skip} {d : UInt8} (digit : isDigit d = true)
    (enters : step mode stack d = .go .power stack) (h : run mode stack (d :: s) = .ok r) :
    ∃ ds t, Digits ds ∧ d :: s = ds ++ t ∧ resume stack t = .ok r := by
  rw [run_go enters] at h
  have stays : ∀ b, isDigit b = true → step .power stack b = .go .power stack :=
    fun b digit => if_pos digit
  obtain ⟨ds, t, digits, rfl, last, ended⟩ := exists_digits stays h
  rw [run_power_end last] at ended
  refine ⟨d :: ds, t, ⟨List.cons_ne_nil _ _, ?_⟩, rfl, ended⟩
  exact List.forall_mem_cons.mpr ⟨digit, digits⟩

theorem exists_exponentSign (h : run .exponentSign stack s = .ok r) :
    ∃ ds t, Digits ds ∧ s = ds ++ t ∧ resume stack t = .ok r := by
  cases s with
  | nil => cases h
  | cons b s =>
    by_cases digit : isDigit b = true
    · have enters : step .exponentSign stack b = .go .power stack := if_pos digit
      exact exists_power digit enters h
    · have fails : step .exponentSign stack b = .fail := if_neg digit
      exact (run_fail fails h).elim

theorem exists_exponent (h : run .exponent stack s = .ok r) {mark : Char}
    (either : mark = 'e' ∨ mark = 'E') : Exponent stack (ascii mark :: s) r := by
  cases s with
  | nil => cases h
  | cons b s =>
    by_cases sign : b = ascii '+' ∨ b = ascii '-'
    · have goes : step .exponent stack b = .go .exponentSign stack := if_pos sign
      rw [run_go goes] at h
      obtain ⟨ds, t, digits, rfl, ended⟩ := exists_exponentSign h
      rcases sign with rfl | rfl
      · exact .of_power (.plus either ds) digits ended
      · exact .of_power (.minus either ds) digits ended
    · by_cases digit : isDigit b = true
      · obtain ⟨ds, t, digits, same, ended⟩ :=
          exists_power digit (step_exponent_digit digit stack) h
        rw [same]
        exact .of_power (.plain either ds) digits ended
      · have fails : step .exponent stack b = .fail := by
          rw [step, if_neg sign, if_neg digit]
        exact (run_fail fails h).elim

theorem exists_mark {b : UInt8} (h : isExponentMark b = true) :
    ∃ mark, (mark = 'e' ∨ mark = 'E') ∧ b = ascii mark := by
  simp only [isExponentMark, Bool.or_eq_true, decide_eq_true_eq] at h
  rcases h with rfl | rfl
  · exact ⟨'e', Or.inl rfl, rfl⟩
  · exact ⟨'E', Or.inr rfl, rfl⟩

/-- Where the digits of a numeral have ended, an exponent or nothing more follows. -/
theorem exponent_of_run {mode : Skip} (before : mode = .zero ∨ mode = .whole ∨ mode = .fraction)
    (h : run mode stack s = .ok r) (last : ∀ b ∈ s.head?, isDigit b = false)
    (noPoint : mode ≠ .fraction → ∀ b ∈ s.head?, b ≠ ascii '.') : Exponent stack s r := by
  cases s with
  | nil =>
    have ending : isNumeralEnd mode = true := by rcases before with rfl | rfl | rfl <;> rfl
    rw [run_numeralEnd ending stack ends_nil] at h
    exact .of_resume h
  | cons b s =>
    have noDigit := last b rfl
    by_cases exponent : isExponentMark b = true
    · obtain ⟨mark, either, rfl⟩ := exists_mark exponent
      rw [run_go (step_mark before stack either)] at h
      exact exists_exponent h either
    · have stops : step mode stack b = afterNumeral stack b := by
        rcases before with rfl | rfl | rfl
        · simp [step, noDigit, exponent, noPoint (by decide) b rfl]
        · simp [step, noDigit, exponent, noPoint (by decide) b rfl]
        · simp [step, noDigit, exponent]
      rw [run_afterNumeral stops] at h
      exact .of_resume h

theorem exists_point (h : run .point stack s = .ok r) :
    ∃ ds t, Digits ds ∧ s = ds ++ t ∧ Exponent stack t r := by
  cases s with
  | nil => cases h
  | cons d s =>
    by_cases digit : isDigit d = true
    · have enters : step .point stack d = .go .fraction stack := if_pos digit
      have stays : ∀ b, isDigit b = true → step .fraction stack b = .go .fraction stack :=
        fun b digit => if_pos digit
      rw [run_go enters] at h
      obtain ⟨ds, t, digits, rfl, last, later⟩ := exists_digits stays h
      refine ⟨d :: ds, t, ⟨List.cons_ne_nil _ _, ?_⟩, rfl, ?_⟩
      · exact List.forall_mem_cons.mpr ⟨digit, digits⟩
      · exact exponent_of_run (Or.inr (Or.inr rfl)) later last (by simp)
    · have fails : step .point stack d = .fail := if_neg digit
      exact (run_fail fails h).elim

/-- Where the digits before the point have ended. -/
theorem exists_fraction {mode : Skip} (before : mode = .zero ∨ mode = .whole)
    (h : run mode stack s = .ok r) (last : ∀ b ∈ s.head?, isDigit b = false) :
    ∃ ds t, (∀ b ∈ ds, isDigit b = true) ∧ s = pointed ds ++ t ∧ Exponent stack t r := by
  by_cases point : ∃ u, s = ascii '.' :: u
  · obtain ⟨u, rfl⟩ := point
    have goes : step mode stack (ascii '.') = .go .point stack := by
      rcases before with rfl | rfl <;> rfl
    rw [run_go goes] at h
    obtain ⟨ds, t, digits, rfl, later⟩ := exists_point h
    refine ⟨ds, t, digits.2, ?_, later⟩
    rw [pointed, if_neg digits.1, List.cons_append]
  · have noPoint : ∀ b ∈ s.head?, b ≠ ascii '.' := by
      intro b first
      rintro rfl
      cases s with
      | nil => cases first
      | cons b s =>
        obtain rfl := Option.some.inj first
        exact point ⟨s, rfl⟩
    have exponent := exponent_of_run (before.imp_right Or.inl) h last fun _ => noPoint
    exact ⟨[], s, List.forall_mem_nil _, rfl, exponent⟩

/-- A numeral is found from its first digit on. -/
theorem exists_numeral {mode : Skip} (first : mode = .value ∨ mode = .sign) {d : UInt8}
    (digit : isDigit d = true) (h : run mode stack (d :: s) = .ok r) :
    ∃ (l : Literal) (power t : List UInt8), l.Valid ∧ Power l.exponent power ∧
      d :: s = (l.whole ++ (pointed l.fraction ++ power)) ++ t ∧ resume stack t = .ok r := by
  by_cases zero : d = ascii '0'
  · subst zero
    have leading : step mode stack (ascii '0') = .go .zero stack := by
      rcases first with rfl | rfl <;> rfl
    rw [run_go leading] at h
    have last : ∀ b ∈ s.head?, isDigit b = false := by
      cases s with
      | nil => nofun
      | cons b s =>
        intro _ same
        obtain rfl := Option.some.inj same
        rw [Bool.eq_false_iff]
        intro more
        have fails : step .zero stack b = .fail := if_pos more
        exact (run_fail fails h).elim
    obtain ⟨ds, _, digits, rfl, exponent, power, t, written, valid, rfl, ended⟩ :=
      exists_fraction (Or.inl rfl) h last
    refine ⟨⟨[ascii '0'], ds, exponent⟩, power, t, ⟨⟨nofun, ?_⟩, fun _ => rfl, digits, valid⟩,
      written, ?_, ended⟩
    · simp
      decide
    · simp
  · rw [run_go (step_digit digit zero first stack)] at h
    have stays : ∀ b, isDigit b = true → step .whole stack b = .go .whole stack :=
      fun b digit => if_pos digit
    obtain ⟨more, u, digits, rfl, last, later⟩ := exists_digits stays h
    obtain ⟨ds, _, decimals, rfl, exponent, power, t, written, valid, rfl, ended⟩ :=
      exists_fraction (Or.inr rfl) later last
    refine ⟨⟨d :: more, ds, exponent⟩, power, t, ⟨⟨nofun, ?_⟩, ?_, decimals, valid⟩, written, ?_,
      ended⟩
    · exact List.forall_mem_cons.mpr ⟨digit, digits⟩
    · exact fun same => (zero (Option.some.inj same)).elim
    · simp

end Skip

end OrderLookup.Json
