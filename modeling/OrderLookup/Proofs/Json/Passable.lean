import OrderLookup.Proofs.Json.SkipTokens

/-!
# What is passed over

`exists_of_skipValue`: what is passed over is well formed, except that the characters of its string
literals need not be encoded in UTF-8; and all that is (`Passable.skipValue`). The run over an
enclosed value ends where its text does, so that each kind of value is found by what it starts with.
-/

namespace OrderLookup.Json

def Passable (s : List UInt8) : Prop :=
  ∃ v, Spells (.value v) (s.map masked)

namespace Enclosure

def part : Enclosure → Skip
  | .array => .value
  | .object => .key

def closing : Enclosure → UInt8
  | .array => ascii ']'
  | .object => ascii '\x7d'

end Enclosure

namespace Skip

variable {stack : List Enclosure} {s r : List UInt8}

/-! ### Values -/

/-- Where a value is passed over, one is found behind white space. -/
def Finds (s : List UInt8) : Prop :=
  ∀ stack r, run .value stack s = .ok r → ∃ gap w t, Blank gap ∧ Passable w ∧
    s = gap ++ (w ++ t) ∧ resume stack t = .ok r

theorem exists_negative (h : run .sign stack s = .ok r) :
    ∃ w t, Passable (ascii '-' :: w) ∧ s = w ++ t ∧ resume stack t = .ok r := by
  cases s with
  | nil => cases h
  | cons d s =>
    by_cases digit : isDigit d = true
    · obtain ⟨l, power, t, valid, written, same, ended⟩ := exists_numeral (Or.inr rfl) digit h
      refine ⟨_, t, ⟨.number Bool.true l, ?_⟩, same, ended⟩
      rw [List.map_cons, Literal.map_masked valid written]
      exact .number Bool.true valid written
    · have fails : step .sign stack d = .fail := by
        have noZero : d ≠ ascii '0' := by
          rintro rfl
          exact digit (by decide)
        rw [step, if_neg noZero, if_neg digit]
      exact (run_fail fails h).elim

theorem padded_masked {before w back : List UInt8} {v : Value} (front : Blank before)
    (h : Spells (.value v) (w.map masked)) (behind : Blank back) :
    Spells (.padded v) ((before ++ (w ++ back)).map masked) := by
  rw [List.map_append, List.map_append, front.map_masked, behind.map_masked]
  exact .padded front h behind

/-! ### Parts of enclosures -/

theorem step_after {b : UInt8} (token : isBlank b = false) (e : Enclosure)
    (outer : List Enclosure) :
    step .after (e :: outer) b =
      if b = ascii ',' then .go e.part (e :: outer)
      else if b = e.closing then close outer else .fail := by
  cases e with
  | array | object =>
    simp only [step, follow, token, Bool.false_eq_true, if_false]
    rfl

/-- After a part there is another one behind a comma, or the end. -/
theorem exists_after {e : Enclosure} {outer : List Enclosure}
    (h : resume (e :: outer) s = .ok r) :
    ∃ gap b t, Blank gap ∧ s = gap ++ b :: t ∧
      (b = ascii ',' ∧ run e.part (e :: outer) t = .ok r ∨
        b = e.closing ∧ resume outer t = .ok r) := by
  have behind : run .after (e :: outer) s = .ok r := h
  obtain ⟨gap, b, t, blank, token, rfl, later⟩ := exists_gap rfl behind
  refine ⟨gap, b, t, blank, rfl, ?_⟩
  have read := step_after token e outer
  by_cases comma : b = ascii ','
  · rw [if_pos comma] at read
    exact Or.inl ⟨comma, (run_go read t).symm.trans later⟩
  by_cases close : b = e.closing
  · rw [if_neg comma, if_pos close] at read
    exact Or.inr ⟨close, (run_close read t).symm.trans later⟩
  · rw [if_neg comma, if_neg close] at read
    exact (run_fail read later).elim

/-! ### Arrays -/

/-- The elements of an array, one at least, up to its end. -/
theorem exists_elements (values : ∀ u : List UInt8, u.length ≤ s.length → Finds u)
    {outer : List Enclosure} (h : run .value (.array :: outer) s = .ok r) :
    ∃ inside v vs t, Spells (.elements (v :: vs)) (inside.map masked) ∧
      s = inside ++ ascii ']' :: t ∧ resume outer t = .ok r := by
  induction length : s.length using Nat.strong_induction_on generalizing s with
  | _ n ih =>
  subst length
  obtain ⟨gap, w, u, front, ⟨v, spelled⟩, rfl, later⟩ := values s (Nat.le_refl _) _ _ h
  obtain ⟨back, b, t, behind, rfl, next⟩ := exists_after later
  have element := padded_masked front spelled behind
  rcases next with ⟨rfl, more⟩ | ⟨rfl, ended⟩
  · have shorter : t.length < (gap ++ (w ++ (back ++ ascii ',' :: t))).length := by
      simp only [List.length_append, List.length_cons]
      omega
    obtain ⟨inside, v', vs, t, elements, rfl, ended⟩ :=
      ih _ shorter (fun u shortest => values u (by omega)) more rfl
    refine ⟨(gap ++ (w ++ back)) ++ ascii ',' :: inside, v, v' :: vs, t, ?_, ?_, ended⟩
    · rw [List.map_append]
      exact .moreElements element elements
    · simp only [List.append_assoc, List.cons_append]
  · refine ⟨gap ++ (w ++ back), v, [], t, .element element, ?_, ended⟩
    rw [List.append_assoc, List.append_assoc]
    rfl

theorem exists_array (values : ∀ u : List UInt8, u.length ≤ s.length → Finds u)
    {outer : List Enclosure} (h : run .firstElement (.array :: outer) s = .ok r) :
    ∃ inside vs t, Spells (.elements vs) (inside.map masked) ∧
      s = inside ++ ascii ']' :: t ∧ resume outer t = .ok r := by
  obtain ⟨gap, b, t, blank, token, rfl, later⟩ := exists_gap rfl h
  by_cases close : b = ascii ']'
  · subst close
    refine ⟨gap, [], t, ?_, rfl, (run_close (by rfl) t).symm.trans later⟩
    rw [blank.map_masked]
    exact .noElement blank
  · have same : step .firstElement (.array :: outer) b = step .value (.array :: outer) b := by
      simp only [step, token, if_neg close, Bool.false_eq_true, if_false]
    rw [run, same] at later
    have first : run .value (.array :: outer) (gap ++ b :: t) = .ok r := by
      rw [run_blanks rfl _ blank]
      exact later
    obtain ⟨inside, v, vs, t, elements, same, ended⟩ := exists_elements values first
    exact ⟨inside, v :: vs, t, elements, same, ended⟩

/-! ### Objects -/

theorem exists_colon (h : run .colon stack s = .ok r) :
    ∃ gap t, Blank gap ∧ s = gap ++ ascii ':' :: t ∧ run .value stack t = .ok r := by
  obtain ⟨gap, b, t, blank, token, rfl, later⟩ := exists_gap rfl h
  by_cases colon : b = ascii ':'
  · subst colon
    exact ⟨gap, t, blank, rfl, (run_go (by rfl) t).symm.trans later⟩
  · have fails : step .colon stack b = .fail := by simp [step, token, colon]
    exact (run_fail fails later).elim

/-- A key, its value and what comes after them. -/
theorem exists_member {mode : Skip} (place : mode = .key ∨ mode = .firstKey) {gap : List UInt8}
    (front : Blank gap) (values : ∀ u : List UInt8, u.length ≤ s.length → Finds u)
    {outer : List Enclosure} (h : run mode (.object :: outer) (ascii '"' :: s) = .ok r) :
    ∃ member key v b t, Spells (.member key v) (member.map masked) ∧
      gap ++ ascii '"' :: s = member ++ b :: t ∧ t.length < s.length ∧
      (b = ascii ',' ∧ run .key (.object :: outer) t = .ok r ∨
        b = ascii '\x7d' ∧ resume outer t = .ok r) := by
  rw [run_go (step_quote place _)] at h
  obtain ⟨key, literal, u, quoted, rfl, colon⟩ := exists_quoted h
  obtain ⟨after, x, blank, rfl, value⟩ := exists_colon colon
  have shorter : x.length ≤ (literal ++ (after ++ ascii ':' :: x)).length := by
    simp only [List.length_append, List.length_cons]
    omega
  obtain ⟨before, w, y, between, ⟨v, spelled⟩, rfl, later⟩ := values x shorter _ _ value
  obtain ⟨back, b, t, behind, rfl, next⟩ := exists_after later
  refine ⟨gap ++ ((ascii '"' :: literal) ++ (after ++ ascii ':' :: (before ++ (w ++ back)))), key,
    v, b, t, ?_, ?_, ?_, next⟩
  · rw [List.map_append, List.map_append, List.map_append, front.map_masked, blank.map_masked]
    exact .keyed front quoted blank (padded_masked between spelled behind)
  · simp only [List.append_assoc, List.cons_append]
  · simp only [List.length_append, List.length_cons]
    omega

theorem exists_key (h : run .key stack s = .ok r) :
    ∃ gap t, Blank gap ∧ s = gap ++ ascii '"' :: t ∧ run .key stack (ascii '"' :: t) = .ok r := by
  obtain ⟨gap, b, t, blank, token, rfl, later⟩ := exists_gap rfl h
  by_cases quote : b = ascii '"'
  · subst quote
    exact ⟨gap, t, blank, rfl, later⟩
  · have fails : step .key stack b = .fail := by simp [step, token, quote]
    exact (run_fail fails later).elim

/-- The members of an object, one at least, up to its end. -/
theorem exists_members {mode : Skip} (place : mode = .key ∨ mode = .firstKey) {gap : List UInt8}
    (front : Blank gap) (values : ∀ u : List UInt8, u.length ≤ s.length → Finds u)
    {outer : List Enclosure} (h : run mode (.object :: outer) (ascii '"' :: s) = .ok r) :
    ∃ inside m ms t, Spells (.members (m :: ms)) (inside.map masked) ∧
      gap ++ ascii '"' :: s = inside ++ ascii '\x7d' :: t ∧ resume outer t = .ok r := by
  induction length : s.length using Nat.strong_induction_on generalizing mode gap s with
  | _ n ih =>
  subst length
  obtain ⟨text, key, v, b, t, member, same, shorter, next⟩ := exists_member place front values h
  rcases next with ⟨rfl, more⟩ | ⟨rfl, ended⟩
  · obtain ⟨gap', u, front', rfl, later⟩ := exists_key more
    rw [List.length_append, List.length_cons] at shorter
    obtain ⟨inside, m, ms, t, members, same', ended⟩ :=
      ih _ (by omega) (Or.inl rfl) front' (fun x shortest => values x (by omega)) later rfl
    refine ⟨text ++ ascii ',' :: inside, (key, v), m :: ms, t, ?_, ?_, ended⟩
    · rw [List.map_append]
      exact .moreMembers member members
    · rw [same, same', List.append_assoc, List.cons_append]
  · exact ⟨text, (key, v), [], t, .member member, same, ended⟩

theorem exists_object (values : ∀ u : List UInt8, u.length ≤ s.length → Finds u)
    {outer : List Enclosure} (h : run .firstKey (.object :: outer) s = .ok r) :
    ∃ inside ms t, Spells (.members ms) (inside.map masked) ∧
      s = inside ++ ascii '\x7d' :: t ∧ resume outer t = .ok r := by
  obtain ⟨gap, b, t, blank, token, rfl, later⟩ := exists_gap rfl h
  by_cases close : b = ascii '\x7d'
  · subst close
    refine ⟨gap, [], t, ?_, rfl, (run_close (by rfl) t).symm.trans later⟩
    rw [blank.map_masked]
    exact .noMember blank
  by_cases quote : b = ascii '"'
  · subst quote
    have shorter : t.length ≤ (gap ++ ascii '"' :: t).length := by
      simp only [List.length_append, List.length_cons]
      omega
    obtain ⟨inside, m, ms, t, members, same, ended⟩ := exists_members (Or.inr rfl) blank
      (fun u shortest => values u (Nat.le_trans shortest shorter)) later
    exact ⟨inside, m :: ms, t, members, same, ended⟩
  · have fails : step .firstKey (.object :: outer) b = .fail := by
      simp [step, token, close, quote]
    exact (run_fail fails later).elim

/-! ### Any value -/

theorem exists_value {b : UInt8} (values : ∀ u : List UInt8, u.length ≤ s.length → Finds u)
    (token : isBlank b = false) (h : run .value stack (b :: s) = .ok r) :
    ∃ w t, Passable w ∧ b :: s = w ++ t ∧ resume stack t = .ok r := by
  by_cases null : b = ascii 'n'
  · subst null
    obtain ⟨t, rfl, ended⟩ := exists_word ((run_go (by rfl) s).symm.trans h)
    exact ⟨asciiBytes "null", t, ⟨.null, .null⟩, rfl, ended⟩
  by_cases isTrue : b = ascii 't'
  · subst isTrue
    obtain ⟨t, rfl, ended⟩ := exists_word ((run_go (by rfl) s).symm.trans h)
    exact ⟨asciiBytes "true", t, ⟨.boolean true, .true⟩, rfl, ended⟩
  by_cases isFalse : b = ascii 'f'
  · subst isFalse
    obtain ⟨t, rfl, ended⟩ := exists_word ((run_go (by rfl) s).symm.trans h)
    exact ⟨asciiBytes "false", t, ⟨.boolean false, .false⟩, rfl, ended⟩
  by_cases minus : b = ascii '-'
  · subst minus
    obtain ⟨w, t, passable, rfl, ended⟩ := exists_negative ((run_go (by rfl) s).symm.trans h)
    exact ⟨_, t, passable, rfl, ended⟩
  by_cases digit : isDigit b = true
  · obtain ⟨l, power, t, valid, written, same, ended⟩ := exists_numeral (Or.inl rfl) digit h
    refine ⟨_, t, ⟨.number false l, ?_⟩, same, ended⟩
    rw [Literal.map_masked valid written]
    exact .number false valid written
  by_cases quote : b = ascii '"'
  · subst quote
    obtain ⟨text, u, t, quoted, rfl, ended⟩ := exists_quoted ((run_go (by rfl) s).symm.trans h)
    exact ⟨ascii '"' :: u, t, ⟨.string text, .string quoted⟩, rfl, ended⟩
  by_cases array : b = ascii '['
  · subst array
    obtain ⟨inside, vs, t, elements, rfl, ended⟩ :=
      exists_array values ((run_go (by rfl) s).symm.trans h)
    refine ⟨ascii '[' :: (inside ++ [ascii ']']), t, ⟨.array vs, ?_⟩, by simp, ended⟩
    rw [List.map_cons, List.map_append]
    exact .array elements
  by_cases object : b = ascii '{'
  · subst object
    obtain ⟨inside, ms, t, members, rfl, ended⟩ :=
      exists_object values ((run_go (by rfl) s).symm.trans h)
    refine ⟨ascii '{' :: (inside ++ [ascii '\x7d']), t, ⟨.object ms, ?_⟩, by simp, ended⟩
    rw [List.map_cons, List.map_append]
    exact .object members
  · have noZero : b ≠ ascii '0' := by
      rintro rfl
      exact digit (by decide)
    have fails : step .value stack b = .fail := by
      simp [step, start, token, null, isTrue, isFalse, minus, noZero, digit, quote, array, object]
    exact (run_fail fails h).elim

theorem finds (s : List UInt8) : Finds s := by
  -- By length: what an array or object holds is shorter than the array or object.
  induction length : s.length using Nat.strong_induction_on generalizing s with
  | _ n ih =>
  subst length
  intro stack r h
  obtain ⟨gap, b, t, blank, token, rfl, first⟩ := exists_gap rfl h
  have values (u : List UInt8) (shorter : u.length ≤ t.length) : Finds u := by
    refine ih u.length ?_ u rfl
    rw [List.length_append, List.length_cons]
    omega
  obtain ⟨w, t, passable, same, ended⟩ := exists_value values token first
  exact ⟨gap, w, t, blank, passable, by rw [same], ended⟩

end Skip

/-- What is passed over is a value that may be, behind white space. -/
theorem exists_of_skipValue {s r : List UInt8} (h : skipValue s = .ok r) :
    ∃ gap w, Blank gap ∧ Passable w ∧ s = gap ++ (w ++ r) := by
  obtain ⟨gap, w, t, blank, passable, rfl, ended⟩ := Skip.finds s [] r h
  obtain rfl := Except.ok.inj ended
  exact ⟨gap, w, blank, passable, rfl⟩

/-- Whatever is well formed may be passed over. -/
theorem Spells.passable {v : Value} {s : List UInt8} (h : Spells (.value v) s) : Passable s := by
  obtain ⟨gap, w, blank, passable, same⟩ := exists_of_skipValue (h.skipValue blank_nil ends_nil)
  obtain ⟨b, t, rfl, starts⟩ := h.starts
  cases gap with
  | nil =>
    rw [List.nil_append, List.nil_append, List.append_nil, List.append_nil] at same
    exact same ▸ passable
  | cons d gap =>
    obtain ⟨rfl, _⟩ := List.cons.inj same
    have token := starts.between.1
    rw [blank b List.mem_cons_self] at token
    cases token

theorem Passable.skipValue {s : List UInt8} (h : Passable s) {gap : List UInt8} (blank : Blank gap)
    {rest : List UInt8} (ends : Ends rest) : skipValue (gap ++ (s ++ rest)) = .ok rest := by
  obtain ⟨v, spelled⟩ := h
  have skipped := spelled.skipValue blank ends.masked
  have lettered : Skip.Lettered .value := nofun
  have same := Skip.run_masked lettered [] (gap ++ (s ++ rest))
  rw [List.map_append, List.map_append, blank.map_masked] at same
  change Json.skipValue _ = (Json.skipValue _).map _ at same
  rw [skipped] at same
  cases found : Json.skipValue (gap ++ (s ++ rest)) with
  | error e =>
    rw [found] at same
    cases same
  | ok r =>
    rw [found] at same
    have length : r.length = rest.length := by
      simpa using congrArg List.length (Except.ok.inj same).symm
    obtain ⟨front, w, _, _, split⟩ := exists_of_skipValue found
    rw [← List.append_assoc, ← List.append_assoc] at split
    rw [(List.append_inj' split length.symm).2]

end OrderLookup.Json
