import OrderLookup.Proofs.Json.Codec

/-!
# What is read as a text

`readQuoted_eq_ok`: the reader of string literals accepts a literal that stands for a text, and
nothing else. The bytes of a character beyond ASCII are found together, since none but the first of
them could come from an escape.
-/

namespace OrderLookup.Json

open OrderLookup.Text

namespace Quote

variable {s text r : List UInt8}

theorem proceed_eq_ok {out : List UInt8} {mode : Quote} :
    proceed (.go out mode) s = .ok (text, r) ↔
      ∃ later, bytes mode s = .ok (later, r) ∧ text = out ++ later := by
  rw [proceed]
  constructor
  · intro read
    cases found : bytes mode s with
    | error e =>
      rw [found] at read
      cases read
    | ok pair =>
      rw [found] at read
      obtain ⟨rfl, rfl⟩ := Prod.mk.inj (Except.ok.inj read)
      exact ⟨_, rfl, rfl⟩
  · rintro ⟨later, read, rfl⟩
    rw [read]

theorem shortEscape?_eq_some {b c : UInt8} (h : shortEscape? b = some c) :
    ∃ letter meaning, (letter, meaning) ∈ shortEscapes ∧ b = ascii letter ∧
      Utf8.encodeChar meaning = [c] := by
  unfold shortEscape? at h
  split at h
  · next same =>
    obtain rfl := Option.some.inj h
    rcases same with rfl | rfl | rfl
    · exact ⟨'"', '"', by decide, rfl, rfl⟩
    · exact ⟨'\\', '\\', by decide, rfl, rfl⟩
    · exact ⟨'/', '/', by decide, rfl, rfl⟩
  split at h
  · next same => exact ⟨'b', '\x08', by decide, same, Option.some.inj h ▸ rfl⟩
  split at h
  · next same => exact ⟨'f', '\x0C', by decide, same, Option.some.inj h ▸ rfl⟩
  split at h
  · next same => exact ⟨'n', '\n', by decide, same, Option.some.inj h ▸ rfl⟩
  split at h
  · next same => exact ⟨'r', '\r', by decide, same, Option.some.inj h ▸ rfl⟩
  split at h
  · next same => exact ⟨'t', '\t', by decide, same, Option.some.inj h ▸ rfl⟩
  · cases h

theorem addHex_eq_some {value : Option Nat} {b : UInt8} {n : Nat} (h : addHex value b = some n) :
    (hexValue? b).isSome = true ∧ ∃ m, value = some m := by
  obtain ⟨m, same, rest⟩ := Option.bind_eq_some_iff.mp h
  obtain ⟨d, digit, _⟩ := Option.bind_eq_some_iff.mp rest
  exact ⟨Option.isSome_of_eq_some digit, m, same⟩

/-- Four hexadecimal digits have to follow. -/
theorem exists_unit {high : Option Nat} (h : bytes (.unit high 0 (some 0)) s = .ok (text, r)) :
    ∃ a b c d t, s = a :: b :: c :: d :: t ∧ (Piece.unit a b c d).Valid ∧
      proceed (ofUnit high (Piece.unitValue a b c d)) t = .ok (text, r) := by
  match s with
  | [] => cases h
  | [_] => cases h
  | [_, _] => cases h
  | [_, _, _] => cases h
  | a :: b :: c :: d :: t =>
    have valid : (Piece.unit a b c d).Valid := by
      have last : bytes (.unit high 0 (some 0)) (a :: b :: c :: d :: t) =
          proceed (step (.unit high 3 (addHex (addHex (addHex (some 0) a) b) c)) d) t := by
        rw [bytes_cons, step, if_pos (by decide), proceed_silent, bytes_cons, step,
          if_pos (by decide), proceed_silent, bytes_cons, step, if_pos (by decide), proceed_silent]
        rfl
      rw [last, step, if_neg (by decide)] at h
      cases found : addHex (addHex (addHex (addHex (some 0) a) b) c) d with
      | none =>
        rw [found] at h
        cases h
      | some n =>
        obtain ⟨fourth, _, third⟩ := addHex_eq_some found
        obtain ⟨third, _, second⟩ := addHex_eq_some third
        obtain ⟨second, _, first⟩ := addHex_eq_some second
        obtain ⟨first, _⟩ := addHex_eq_some first
        simp [Piece.Valid, first, second, third, fourth]
    exact ⟨a, b, c, d, t, rfl, valid, bytes_unit valid high t ▸ h⟩

/-- The second half of a pair is another unit. -/
theorem exists_pairUnit {high : Nat} (h : bytes (.pairEscape high) s = .ok (text, r)) :
    ∃ a b c d t, s = Piece.bytes (.unit a b c d) ++ t ∧ (Piece.unit a b c d).Valid ∧
      proceed (ofUnit (some high) (Piece.unitValue a b c d)) t = .ok (text, r) := by
  cases s with
  | nil => cases h
  | cons e s =>
  rw [bytes_cons, step] at h
  split at h
  · next backslash =>
    rw [proceed_silent] at h
    cases s with
    | nil => cases h
    | cons f s =>
    rw [bytes_cons, step] at h
    split at h
    · next mark =>
      rw [proceed_silent] at h
      obtain ⟨a, b, c, d, t, rfl, valid, unit⟩ := exists_unit h
      exact ⟨a, b, c, d, t, by rw [backslash, mark]; rfl, valid, unit⟩
    · cases h
  · cases h

/-- An escape of one letter, of a character or of two surrogates. -/
theorem exists_escape (h : bytes .escape s = .ok (text, r)) :
    ∃ (pieces : List Piece) (c : Char) (t later : List UInt8), (∀ piece ∈ pieces, piece.Valid) ∧
      ascii '\\' :: s = pieces.flatMap Piece.bytes ++ t ∧ text = Utf8.encodeChar c ++ later ∧
      bytes .plain t = .ok (later, r) := by
  cases s with
  | nil => cases h
  | cons e s =>
  rw [bytes_cons, step] at h
  cases short : shortEscape? e with
  | some b =>
    obtain ⟨letter, meaning, listed, rfl, written⟩ := shortEscape?_eq_some short
    rw [short] at h
    obtain ⟨later, read, rfl⟩ := proceed_eq_ok.mp h
    have valid := List.forall_mem_singleton.mpr (show (Piece.short letter meaning).Valid from listed)
    exact ⟨[.short letter meaning], meaning, s, later, valid, rfl, by rw [written], read⟩
  | none =>
    rw [short] at h
    dsimp only at h
    split at h
    · next mark =>
      rw [proceed_silent] at h
      obtain ⟨a, b, c, d, t, rfl, valid, unit⟩ := exists_unit h
      rw [ofUnit] at unit
      split at unit
      · cases unit
      split at unit
      · rw [proceed_silent] at unit
        obtain ⟨a', b', c', d', t', rfl, valid', low⟩ := exists_pairUnit unit
        by_cases range : isLow (Piece.unitValue a' b' c' d') = true
        · rw [ofUnit_pair (isLow_iff.mp range)] at low
          obtain ⟨later, read, joined⟩ := proceed_eq_ok.mp low
          refine ⟨[.unit a b c d, .unit a' b' c' d'], _, t', later, ?_, by rw [mark]; rfl, joined,
            read⟩
          exact List.forall_mem_cons.mpr ⟨valid, List.forall_mem_singleton.mpr valid'⟩
        · rw [ofUnit, if_neg range] at low
          cases low
      · obtain ⟨later, read, rfl⟩ := proceed_eq_ok.mp unit
        exact ⟨[.unit a b c d], _, t, later, List.forall_mem_singleton.mpr valid, by rw [mark]; rfl,
          rfl, read⟩
    · cases h

/-- How a string literal may go on: with its end, a byte that stands for itself, or an escape. -/
theorem bytes_plain_cases (h : bytes .plain s = .ok (text, r)) :
    (text = [] ∧ s = ascii '"' :: r) ∨
    (∃ b t later, isPlainByte b = true ∧ s = b :: t ∧ text = b :: later ∧
      bytes .plain t = .ok (later, r)) ∨
    ∃ (pieces : List Piece) (c : Char) (t later : List UInt8), (∀ piece ∈ pieces, piece.Valid) ∧
      s = pieces.flatMap Piece.bytes ++ t ∧ text = Utf8.encodeChar c ++ later ∧
      bytes .plain t = .ok (later, r) := by
  cases s with
  | nil => cases h
  | cons b t =>
  rw [bytes_cons, step] at h
  split at h
  · next close =>
    obtain ⟨rfl, rfl⟩ := Prod.mk.inj (Except.ok.inj h)
    exact Or.inl ⟨rfl, close ▸ rfl⟩
  split at h
  · next backslash =>
    rw [proceed_silent] at h
    exact Or.inr (Or.inr (backslash ▸ exists_escape h))
  split at h
  · cases h
  · next quote backslash printable =>
    obtain ⟨later, read, rfl⟩ := proceed_eq_ok.mp h
    exact Or.inr (Or.inl ⟨b, t, later, isPlainByte_iff.mpr ⟨quote, backslash, printable⟩, rfl, rfl,
      read⟩)

/-- The end of a character is not escaped. -/
theorem bytes_tail {tail later : List UInt8} (inside : ∀ b ∈ tail, Utf8.IsTail b)
    (h : bytes .plain s = .ok (tail ++ later, r)) :
    ∃ t, s = tail ++ t ∧ bytes .plain t = .ok (later, r) := by
  induction tail generalizing s with
  | nil => exact ⟨s, rfl, h⟩
  | cons b tail ih =>
    rw [List.forall_mem_cons] at inside
    rcases bytes_plain_cases h with
      ⟨none, _⟩ | ⟨d, t, more, _, rfl, same, read⟩ | ⟨_, c, t, more, _, _, same, _⟩
    · cases none
    · obtain ⟨rfl, rfl⟩ := List.cons.inj same
      obtain ⟨t, rfl, rest⟩ := ih inside.2 read
      exact ⟨t, rfl, rest⟩
    · obtain ⟨lead, rest, written, noTail, _⟩ := Utf8.encodeChar_eq_cons c
      rw [written] at same
      obtain ⟨rfl, _⟩ := List.cons.inj same
      exact (noTail inside.1).elim

theorem valid_plain {c : Char} {b : UInt8} {tail : List UInt8}
    (written : Utf8.encodeChar c = b :: tail) (plain : isPlainByte b = true) :
    (Piece.plain c).Valid := by
  obtain ⟨quote, backslash, printable⟩ := isPlainByte_iff.mp plain
  refine ⟨?_, ?_, ?_⟩
  · by_cases small : c.toNat < 0x80
    · have single : Utf8.encodeChar c = [c.toNat.toUInt8] := if_pos small
      rw [single] at written
      obtain ⟨rfl, _⟩ := List.cons.inj written
      rw [UInt8.lt_iff_toNat_lt, Utf8.toNat_toUInt8 (by omega)] at printable
      exact Nat.not_lt.mp printable
    · omega
  · rintro rfl
    exact quote (List.cons.inj written).1.symm
  · rintro rfl
    exact backslash (List.cons.inj written).1.symm

/-- Where a text is read, it is written in pieces. -/
theorem exists_pieces {chars : List Char} (h : bytes .plain s = .ok (Utf8.encode chars, r)) :
    ∃ pieces : List Piece, (∀ piece ∈ pieces, piece.Valid) ∧
      s = pieces.flatMap Piece.bytes ++ ascii '"' :: r := by
  -- Every character takes its own pieces off the front.
  induction chars generalizing s with
  | nil =>
    rcases bytes_plain_cases h with
      ⟨_, rfl⟩ | ⟨_, _, _, _, _, some, _⟩ | ⟨_, c, _, _, _, _, some, _⟩
    · exact ⟨[], nofun, rfl⟩
    · cases some
    · obtain ⟨_, _, written, _⟩ := Utf8.encodeChar_eq_cons c
      rw [written] at some
      cases some
  | cons d chars ih =>
    obtain ⟨lead, tail, written, noTail, inside⟩ := Utf8.encodeChar_eq_cons d
    rw [Utf8.encode, List.flatMap_cons, written] at h
    rcases bytes_plain_cases h with
      ⟨none, _⟩ | ⟨b, t, later, plain, rfl, same, read⟩ |
        ⟨pieces, c, t, later, valid, rfl, same, read⟩
    · cases none
    · obtain ⟨rfl, rfl⟩ := List.cons.inj same
      obtain ⟨t, rfl, rest⟩ := bytes_tail inside read
      obtain ⟨pieces, valid, rfl⟩ := ih rest
      refine ⟨.plain d :: pieces, List.forall_mem_cons.mpr ⟨valid_plain written plain, valid⟩, ?_⟩
      rw [List.flatMap_cons, Piece.bytes, written, List.append_assoc, List.cons_append]
    · rw [← written] at same
      obtain ⟨rfl, rfl⟩ := Utf8.encodeChar_append_inj same
      obtain ⟨more, valid', rfl⟩ := ih read
      refine ⟨pieces ++ more, List.forall_mem_append.mpr ⟨valid, valid'⟩, ?_⟩
      rw [List.flatMap_append, List.append_assoc]

end Quote

/-- What is read as a text is a string literal, after its opening quote, that stands for it. -/
theorem readQuoted_eq_ok {s r : List UInt8} {found : String} :
    readQuoted s = .ok (found, r) ↔ ∃ t, s = t ++ r ∧ Quoted (some found) (ascii '"' :: t) := by
  constructor
  · intro h
    obtain ⟨⟨bytes, rest⟩, read, h⟩ := bind_eq_ok.mp h
    dsimp only at h
    split at h
    · next chars decoded =>
      obtain ⟨rfl, rfl⟩ := Prod.mk.inj (Except.ok.inj h)
      obtain rfl := Utf8.decode?_eq_some.mp decoded
      obtain ⟨pieces, valid, rfl⟩ := Quote.exists_pieces read
      have stands := Quote.bytes_pieces valid rest
      rw [read] at stands
      obtain ⟨found, text, same⟩ := Option.map_eq_some_iff.mp stands.symm
      obtain rfl := Utf8.encode_injective (Prod.mk.inj same).1
      refine ⟨pieces.flatMap Piece.bytes ++ [ascii '"'], by simp, ?_⟩
      have quoted := Quoted.intro valid
      rwa [text] at quoted
    · cases h
  · rintro ⟨t, rfl, quoted⟩
    obtain ⟨u, same, read⟩ := quoted.read_iff
    obtain ⟨_, rfl⟩ := List.cons.inj same
    exact (read r found r).mpr ⟨rfl, rfl⟩

end OrderLookup.Json
