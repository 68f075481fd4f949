import OrderLookup.Proofs.Json.Inversion

/-!
# Reading when more bytes follow

A reader stops where its value ends and leaves the rest alone, so that more bytes behind the rest
change nothing (`Closed`). A numeral ends only before a byte that does not continue it; its reader
needs that there is a rest (`Steady`). `Codec.decode_append` takes this to whole documents.
-/

namespace OrderLookup.Json

variable {α β : Type}

/-- More bytes behind what is left change nothing. -/
def Closed (read : Reader α) : Prop :=
  ∀ ⦃s a r⦄, read s = .ok (a, r) → ∀ t, read (s ++ t) = .ok (a, r ++ t)

/-- More bytes behind what is left change nothing, as long as something is left. -/
def Steady (read : Reader α) : Prop :=
  ∀ ⦃s a r⦄, read s = .ok (a, r) → r ≠ [] → ∀ t, read (s ++ t) = .ok (a, r ++ t)

theorem Closed.steady {read : Reader α} (h : Closed read) : Steady read :=
  fun _ _ _ found _ => h found

/-! ### Words and string literals -/

theorem word_extend {w s r : List UInt8} (h : word w s = .ok r) (t : List UInt8) :
    word w (s ++ t) = .ok (r ++ t) := by
  rw [word_eq_ok] at h ⊢
  rw [h, List.append_assoc]

theorem Quote.bytes_closed (mode : Quote) : Closed (Quote.bytes mode) := by
  intro s text r h t
  induction s generalizing mode text with
  | nil => cases h
  | cons b s ih =>
    rw [bytes] at h
    rw [List.cons_append, bytes]
    cases next : step mode b with
    | close =>
      rw [next] at h
      obtain ⟨rfl, rfl⟩ := Prod.mk.inj (Except.ok.inj h)
      rfl
    | fail =>
      rw [next] at h
      cases h
    | go out later =>
      rw [next] at h
      dsimp only at h ⊢
      cases found : bytes later s with
      | error e =>
        rw [found] at h
        cases h
      | ok pair =>
        rw [found] at h
        obtain ⟨rfl, rfl⟩ := Prod.mk.inj (Except.ok.inj h)
        rw [ih later found]

theorem readQuoted_closed : Closed readQuoted := by
  intro s text r h t
  obtain ⟨⟨bytes, rest⟩, found, h⟩ := bind_eq_ok.mp h
  rw [readQuoted, Quote.bytes_closed .plain found, ok_bind]
  dsimp only at h ⊢
  cases decoded : Text.Utf8.decode? bytes with
  | none =>
    rw [decoded] at h
    cases h
  | some chars =>
    rw [decoded] at h
    obtain ⟨rfl, rfl⟩ := Prod.mk.inj (Except.ok.inj h)
    rfl

/-! ### Numerals -/

namespace Literal

theorem digits_steady : Steady digits := by
  intro s found r h some t
  obtain ⟨rfl, all, stop⟩ := digits_eq_ok h
  rw [List.append_assoc]
  refine digits_append all fun b first => stop b ?_
  rwa [List.head?_append_of_ne_nil r some] at first

theorem readExponent_steady : Steady readExponent := by
  intro s power r h some t
  cases s with
  | nil => cases h
  | cons b s =>
    rw [readExponent] at h
    rw [List.cons_append, readExponent]
    split at h
    · next sign =>
      obtain ⟨⟨found, rest⟩, read, same⟩ := bind_eq_ok.mp h
      obtain ⟨rfl, rfl⟩ := Prod.mk.inj (Except.ok.inj same)
      rw [if_pos sign, digits_steady read some]
      rfl
    · next sign =>
      obtain ⟨⟨found, rest⟩, read, same⟩ := bind_eq_ok.mp h
      obtain ⟨rfl, rfl⟩ := Prod.mk.inj (Except.ok.inj same)
      rw [if_neg sign, ← List.cons_append, digits_steady read some]
      rfl

theorem readPower_steady : Steady readPower := by
  intro s power r h some t
  cases s with
  | nil =>
    obtain ⟨_, rfl⟩ := Prod.mk.inj (Except.ok.inj h)
    exact (some rfl).elim
  | cons b s =>
    rw [readPower] at h
    rw [List.cons_append, readPower]
    split at h
    · next mark =>
      obtain ⟨⟨found, rest⟩, read, same⟩ := bind_eq_ok.mp h
      obtain ⟨rfl, rfl⟩ := Prod.mk.inj (Except.ok.inj same)
      rw [if_pos mark, readExponent_steady read some]
      rfl
    · next mark =>
      obtain ⟨rfl, rfl⟩ := Prod.mk.inj (Except.ok.inj h)
      rw [if_neg mark]
      rfl

theorem readPower_rest {s r : List UInt8} {power : Option (Bool × List UInt8)}
    (h : readPower s = .ok (power, r)) (some : r ≠ []) : s ≠ [] := by
  rintro rfl
  obtain ⟨_, rfl⟩ := Prod.mk.inj (Except.ok.inj h)
  exact some rfl

theorem read_steady : Steady read := by
  intro s literal r h some t
  obtain ⟨⟨whole, rest⟩, first, h⟩ := bind_eq_ok.mp h
  dsimp only at h
  split at h
  · cases h
  next noZero =>
  change Except.ok _ >>= _ = _ at h
  rw [ok_bind] at h
  cases rest with
  | nil =>
    obtain ⟨_, rfl⟩ := Prod.mk.inj (Except.ok.inj h)
    exact (some rfl).elim
  | cons b after =>
    rw [read, digits_steady first (List.cons_ne_nil _ _), ok_bind]
    dsimp only at h ⊢
    rw [if_neg noZero]
    split at h
    · next point =>
      obtain ⟨⟨fraction, rest⟩, second, h⟩ := bind_eq_ok.mp h
      obtain ⟨⟨power, last⟩, third, same⟩ := bind_eq_ok.mp h
      obtain ⟨rfl, rfl⟩ := Prod.mk.inj (Except.ok.inj same)
      simp only [List.cons_append, if_pos point]
      rw [digits_steady second (readPower_rest third some)]
      simp only [pure, Except.pure, ok_bind, readPower_steady third some]
    · next point =>
      obtain ⟨⟨power, last⟩, second, same⟩ := bind_eq_ok.mp h
      obtain ⟨rfl, rfl⟩ := Prod.mk.inj (Except.ok.inj same)
      simp only [List.cons_append, if_neg point]
      rw [← List.cons_append, readPower_steady second some]
      rfl

end Literal

theorem readNumeral_steady (minus : Bool) : Steady (readNumeral minus) := by
  intro s n r h some t
  obtain ⟨⟨literal, rest⟩, read, h⟩ := bind_eq_ok.mp h
  rw [readNumeral]
  dsimp only at h
  cases found : literal.numeral? minus with
  | none =>
    rw [found] at h
    cases h
  | some m =>
    rw [found] at h
    obtain ⟨rfl, rfl⟩ := Prod.mk.inj (Except.ok.inj h)
    rw [Literal.read_steady read some, ok_bind]
    dsimp only
    rw [found]
    rfl

/-! ### Values that are passed over -/

namespace Skip

theorem run_extend {mode : Skip} {stack : List Enclosure} {s r : List UInt8}
    (h : run mode stack s = .ok r) (some : r ≠ []) (t : List UInt8) :
    run mode stack (s ++ t) = .ok (r ++ t) := by
  induction s generalizing mode stack with
  | nil =>
    -- Only a numeral may end with the input, and then nothing is left.
    rw [run] at h
    unfold atEnd at h
    split at h
    · split at h
      · exact (some (Except.ok.inj h).symm).elim
      · cases h
    · split at h
      · exact (some (Except.ok.inj h).symm).elim
      · cases h
    · split at h
      · exact (some (Except.ok.inj h).symm).elim
      · cases h
    · split at h
      · exact (some (Except.ok.inj h).symm).elim
      · cases h
    all_goals cases h
  | cons b s ih =>
    rw [run] at h
    rw [List.cons_append, run]
    cases next : step mode stack b with
    | go later inner =>
      rw [next] at h
      exact ih h
    | ended | endedBefore =>
      rw [next] at h
      obtain rfl := Except.ok.inj h
      rfl
    | fail =>
      rw [next] at h
      cases h

end Skip

theorem skipValue_extend {s r : List UInt8} (h : skipValue s = .ok r) (some : r ≠ [])
    (t : List UInt8) : skipValue (s ++ t) = .ok (r ++ t) :=
  Skip.run_extend h some t

/-! ### Codecs -/

namespace Codec

variable {c : Codec β}

theorem text_closed : Closed text.read := by
  intro s found r h t
  obtain ⟨⟨b, rest⟩, first, _⟩ := bind_eq_ok.mp h
  obtain ⟨gap, blank, token, rfl⟩ := nextByte_eq_ok.mp first
  rw [text_read blank token] at h
  rw [List.append_assoc, List.cons_append, text_read blank token]
  split at h
  · next quote => rw [if_pos quote, readQuoted_closed h]
  · cases h

theorem storeInteger_steady {read : Reader Numeral} (steady : Steady read) :
    Steady fun s => read s >>= storeInteger := by
  intro s z r h some t
  obtain ⟨⟨n, left⟩, numeral, h⟩ := bind_eq_ok.mp h
  rw [storeInteger] at h
  split at h
  · next y same =>
    obtain ⟨rfl, rfl⟩ := Prod.mk.inj (Except.ok.inj h)
    dsimp only at same ⊢
    rw [steady numeral some, ok_bind, storeInteger, same]
  · cases h

theorem integer_steady : Steady integer.read := by
  intro s z r h some t
  obtain ⟨⟨b, rest⟩, first, _⟩ := bind_eq_ok.mp h
  obtain ⟨gap, blank, token, rfl⟩ := nextByte_eq_ok.mp first
  rw [integer_read blank token] at h
  rw [List.append_assoc, List.cons_append, integer_read blank token]
  split at h
  · next minus =>
    rw [if_pos minus]
    exact storeInteger_steady (readNumeral_steady true) h some t
  · next plain =>
    rw [if_neg plain]
    split at h
    · next digit =>
      rw [if_pos digit]
      exact storeInteger_steady (readNumeral_steady false) h some t
    · cases h

theorem nullable_steady (steady : Steady c.read) : Steady (nullable c).read := by
  intro s found r h some t
  obtain ⟨⟨b, rest⟩, first, _⟩ := bind_eq_ok.mp h
  obtain ⟨gap, blank, token, rfl⟩ := nextByte_eq_ok.mp first
  rw [nullable_read c blank token] at h
  rw [List.append_assoc, List.cons_append, nullable_read c blank token]
  split at h
  · next null =>
    obtain ⟨left, word, same⟩ := bind_eq_ok.mp h
    obtain ⟨rfl, rfl⟩ := Prod.mk.inj (Except.ok.inj same)
    rw [if_pos null, word_extend word, ok_bind]
  · next null =>
    obtain ⟨⟨a, left⟩, read, same⟩ := bind_eq_ok.mp h
    obtain ⟨rfl, rfl⟩ := Prod.mk.inj (Except.ok.inj same)
    rw [if_neg null, ← List.cons_append, steady read some, ok_bind]

/-! ### Arrays -/

theorem nextElement_extend {first : Bool} {s : List UInt8} {ahead : Option (List UInt8)}
    (h : nextElement first s = .ok ahead) (t : List UInt8) :
    nextElement first (s ++ t) = .ok (ahead.map (· ++ t)) := by
  cases ahead with
  | none =>
    obtain ⟨gap, r, blank, rfl⟩ := nextElement_eq_none.mp h
    exact nextElement_eq_none.mpr ⟨gap, r ++ t, blank, List.append_assoc ..⟩
  | some u =>
    obtain ⟨l, gap, b, after, lead, blank, token, noClose, rfl, rfl⟩ := nextElement_eq_some.mp h
    refine nextElement_eq_some.mpr ⟨l, gap, b, after ++ t, lead, blank, token, noClose, ?_, rfl⟩
    simp only [List.append_assoc]

theorem closeArray_extend {s r : List UInt8} (h : closeArray s = .ok r) (t : List UInt8) :
    closeArray (s ++ t) = .ok (r ++ t) := by
  obtain ⟨gap, blank, rfl⟩ := closeArray_eq_ok.mp h
  exact closeArray_eq_ok.mpr ⟨gap, blank, List.append_assoc ..⟩

theorem elements_ne_nil {fuel : Nat} {first : Bool} {s r : List UInt8} {as : List β}
    (h : elements c fuel first s = .ok (as, r)) : s ≠ [] := by
  rintro rfl
  cases fuel with
  | zero => cases h
  | succ fuel => cases h

theorem elements_extend (steady : Steady c.read) {fuel : Nat} {first : Bool} {s r : List UInt8}
    {as : List β} (h : elements c fuel first s = .ok (as, r)) {more : Nat} (enough : fuel ≤ more)
    (t : List UInt8) : elements c more first (s ++ t) = .ok (as, r ++ t) := by
  induction fuel generalizing first s as more with
  | zero => cases h
  | succ fuel ih =>
    obtain ⟨more, rfl⟩ := Nat.exists_eq_add_one_of_ne_zero (Nat.ne_zero_of_lt enough)
    obtain ⟨ahead, found, h⟩ := bind_eq_ok.mp h
    rw [elements, nextElement_extend found, ok_bind]
    cases ahead with
    | none =>
      obtain ⟨left, close, same⟩ := bind_eq_ok.mp h
      obtain ⟨rfl, rfl⟩ := Prod.mk.inj (Except.ok.inj same)
      dsimp only [Option.map_none]
      rw [closeArray_extend close]
      rfl
    | some u =>
      obtain ⟨⟨a, left⟩, read, h⟩ := bind_eq_ok.mp h
      obtain ⟨⟨later, last⟩, run, same⟩ := bind_eq_ok.mp h
      obtain ⟨rfl, rfl⟩ := Prod.mk.inj (Except.ok.inj same)
      dsimp only [Option.map_some]
      rw [steady read (elements_ne_nil run), ok_bind]
      dsimp only
      rw [ih run (Nat.le_of_succ_le_succ enough)]
      rfl

theorem list_closed (steady : Steady c.read) : Closed (list c).read := by
  intro s as r h t
  obtain ⟨⟨b, rest⟩, first, _⟩ := bind_eq_ok.mp h
  obtain ⟨gap, blank, token, rfl⟩ := nextByte_eq_ok.mp first
  rw [list_read c blank token] at h
  rw [List.append_assoc, List.cons_append, list_read c blank token]
  split at h
  · next array =>
    rw [if_pos array, elements_extend steady h (by rw [List.length_append]; omega)]
  · cases h

theorem listOrNull_steady (steady : Steady c.read) : Steady (listOrNull c).read := by
  intro s as r h some t
  obtain ⟨⟨found, left⟩, read, same⟩ := bind_eq_ok.mp h
  obtain ⟨rfl, rfl⟩ := Prod.mk.inj (Except.ok.inj same)
  change ((nullable (list c)).read _ >>= _) = _
  rw [nullable_steady ((list_closed steady).steady) read some]
  rfl

theorem member_steady (steady : Steady c.read) (key : String) (optional : Bool) (get : α → β)
    (set : β → α → α) : Steady (c.member key optional get set).read := by
  intro s store r h some t
  obtain ⟨⟨b, left⟩, read, same⟩ := bind_eq_ok.mp h
  obtain ⟨rfl, rfl⟩ := Prod.mk.inj (Except.ok.inj same)
  change (c.read _ >>= _) = _
  rw [steady read some]
  rfl

end Codec

/-! ### Records -/

namespace Shape

variable {shape : Shape α}

theorem positions_ne_nil {members : List (Member α)} {count : Nat} {first : Bool} {draft a : α}
    {s r : List UInt8} (h : shape.positions members count first draft s = .ok (a, r)) : s ≠ [] := by
  rintro rfl
  cases members with
  | nil => cases h
  | cons m later => cases h

theorem positions_closed {members : List (Member α)} (steady : ∀ m ∈ members, Steady m.read)
    (count : Nat) (first : Bool) (draft : α) : Closed (shape.positions members count first draft) := by
  intro s a r h t
  induction members generalizing count first draft s with
  | nil =>
    obtain ⟨left, close, same⟩ := bind_eq_ok.mp h
    obtain ⟨rfl, rfl⟩ := Prod.mk.inj (Except.ok.inj same)
    rw [positions, Codec.closeArray_extend close]
    rfl
  | cons m later ih =>
    rw [List.forall_mem_cons] at steady
    obtain ⟨ahead, found, h⟩ := bind_eq_ok.mp h
    rw [positions, Codec.nextElement_extend found, ok_bind]
    cases ahead with
    | none =>
      dsimp only [Option.map_none] at h ⊢
      split at h
      · next optional => rw [if_pos optional, ih steady.2 _ _ _ h]
      · cases h
    | some u =>
      obtain ⟨⟨store, left⟩, read, h⟩ := bind_eq_ok.mp h
      dsimp only [Option.map_some]
      rw [steady.1 read (positions_ne_nil h), ok_bind]
      exact ih steady.2 _ _ _ h

theorem nextKey_closed (first : Bool) : Closed (nextKey first) := by
  intro s ahead r h t
  cases ahead with
  | none =>
    obtain ⟨gap, blank, rfl⟩ := nextKey_eq_none.mp h
    exact nextKey_eq_none.mpr ⟨gap, blank, List.append_assoc ..⟩
  | some key =>
    obtain ⟨l, gap, u, lead, blank, rfl, read⟩ := nextKey_eq_some.mp h
    refine nextKey_eq_some.mpr ⟨l, gap, u ++ t, lead, blank, ?_, readQuoted_closed read t⟩
    simp only [List.append_assoc, List.cons_append]

theorem afterColon_extend {s r : List UInt8} (h : afterColon s = .ok r) (t : List UInt8) :
    afterColon (s ++ t) = .ok (r ++ t) := by
  obtain ⟨gap, blank, rfl⟩ := afterColon_eq_ok.mp h
  exact afterColon_eq_ok.mpr ⟨gap, blank, List.append_assoc ..⟩

theorem entries_ne_nil {fuel : Nat} {first : Bool} {seen : List String} {draft a : α}
    {s r : List UInt8} (h : shape.entries fuel first seen draft s = .ok (a, r)) : s ≠ [] := by
  rintro rfl
  cases fuel with
  | zero => cases h
  | succ fuel => cases h

theorem entries_extend (steady : ∀ m ∈ shape.members, Steady m.read) {fuel : Nat} {first : Bool}
    {seen : List String} {draft a : α} {s r : List UInt8}
    (h : shape.entries fuel first seen draft s = .ok (a, r)) {more : Nat} (enough : fuel ≤ more)
    (t : List UInt8) : shape.entries more first seen draft (s ++ t) = .ok (a, r ++ t) := by
  induction fuel generalizing first seen draft s more with
  | zero => cases h
  | succ fuel ih =>
    obtain ⟨more, rfl⟩ := Nat.exists_eq_add_one_of_ne_zero (Nat.ne_zero_of_lt enough)
    have ⟨⟨ahead, rest⟩, next, ended⟩ := bind_eq_ok.mp h
    have extended := nextKey_closed first next t
    cases ahead with
    | none =>
      rw [entries, extended, ok_bind]
      dsimp only at ended ⊢
      split at ended
      · cases ended
      · obtain ⟨rfl, rfl⟩ := Prod.mk.inj (Except.ok.inj ended)
        rfl
    | some key =>
      rw [Slot.entries_key next] at h
      rw [Slot.entries_key extended]
      cases found : shape.members.find? (·.key == key) with
      | none =>
        rw [found] at h
        obtain ⟨after, colon, h⟩ := bind_eq_ok.mp h
        obtain ⟨left, skipped, h⟩ := bind_eq_ok.mp h
        dsimp only
        rw [afterColon_extend colon, ok_bind, skipValue_extend skipped (entries_ne_nil h), ok_bind,
          ih h (Nat.le_of_succ_le_succ enough)]
      | some m =>
        rw [found] at h
        dsimp only at h ⊢
        split at h
        · cases h
        next new =>
        obtain ⟨after, colon, h⟩ := bind_eq_ok.mp h
        obtain ⟨⟨store, left⟩, read, h⟩ := bind_eq_ok.mp h
        have member := steady m (List.mem_of_find?_eq_some found)
        rw [if_neg new, afterColon_extend colon, ok_bind, member read (entries_ne_nil h), ok_bind]
        exact ih h (Nat.le_of_succ_le_succ enough)

theorem codec_closed (steady : ∀ m ∈ shape.members, Steady m.read) : Closed shape.codec.read := by
  intro s a r h t
  obtain ⟨⟨b, rest⟩, first, _⟩ := bind_eq_ok.mp h
  obtain ⟨gap, blank, token, rfl⟩ := nextByte_eq_ok.mp first
  rw [Slot.record_read shape blank token] at h
  rw [List.append_assoc, List.cons_append, Slot.record_read shape blank token]
  split at h
  · next array => rw [if_pos array, positions_closed steady _ _ _ h]
  next noArray =>
  rw [if_neg noArray]
  split at h
  · next object =>
    rw [if_pos object, entries_extend steady h (by rw [List.length_append]; omega)]
  · cases h

end Shape

/-! ### Documents -/

namespace Codec

variable {c : Codec β}

/-- What follows a document may only be white space. -/
theorem decode_append (closed : Closed c.read) {document : List UInt8} {b : β}
    (h : c.decode document = .ok b) (tail : List UInt8) :
    c.decode (document ++ tail) = if Blank tail then .ok b else .error .illFormed := by
  obtain ⟨rest, read, blank⟩ := decode_eq_ok.mp h
  rw [decode, closed read, ok_bind]
  dsimp only
  rw [skipBlanks_append blank]
  split
  · next empty => rw [if_pos (skipBlanks_eq_nil.mp (List.isEmpty_iff.mp empty))]; rfl
  · next more =>
    rw [if_neg fun blank => more (List.isEmpty_iff.mpr (skipBlanks_eq_nil.mpr blank))]
    rfl

end Codec

end OrderLookup.Json
