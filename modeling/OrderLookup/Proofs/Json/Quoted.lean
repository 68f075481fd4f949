import OrderLookup.Proofs.Json.Grammar
import OrderLookup.Proofs.Text.Utf8

/-!
# Reading string literals

`Quoted.read_iff`: a string literal is read as the text that it stands for, and refused if it stands
for none, whatever follows it.
-/

namespace OrderLookup.Json

open OrderLookup.Text

/-! ### Bytes of the pieces -/

def isPlainByte (b : UInt8) : Bool :=
  0x20 ≤ b && b != ascii '"' && b != ascii '\\'

theorem isPlainByte_of_le {b : UInt8} (h : 0x80 ≤ b) : isPlainByte b = true := by
  have other {c : Char} (ascii : ¬0x80 ≤ ascii c) : b ≠ Json.ascii c := by
    rintro rfl
    exact ascii h
  have printable : 0x20 ≤ b := UInt8.le_trans (by decide) h
  simp [isPlainByte, printable, other (c := '"') (by decide), other (c := '\\') (by decide)]

theorem isPlainByte_of_mem {c : Char} (valid : (Piece.plain c).Valid) {b : UInt8}
    (h : b ∈ Utf8.encodeChar c) : isPlainByte b = true := by
  obtain ⟨printable, noQuote, noBackslash⟩ := valid
  by_cases small : c.toNat < 0x80
  · have all : ∀ n < 0x80, 0x20 ≤ n → Char.ofNat n ≠ '"' → Char.ofNat n ≠ '\\' →
        isPlainByte n.toUInt8 = true := by decide
    have single : Utf8.encodeChar c = [c.toNat.toUInt8] := if_pos small
    rw [single] at h
    obtain rfl := List.mem_singleton.mp h
    have back : Char.ofNat c.toNat = c := Char.ofNat_toNat c
    exact all c.toNat small printable (by rwa [back]) (by rwa [back])
  · exact isPlainByte_of_le (Utf8.le_of_mem_encodeChar (Nat.not_lt.mp small) h)

theorem isPlainByte_iff {b : UInt8} :
    isPlainByte b = true ↔ b ≠ ascii '"' ∧ b ≠ ascii '\\' ∧ ¬b < 0x20 := by
  simp only [isPlainByte, Bool.and_eq_true, decide_eq_true_eq, bne_iff_ne, ne_eq, UInt8.not_lt]
  constructor
  · rintro ⟨⟨printable, quote⟩, backslash⟩
    exact ⟨quote, backslash, printable⟩
  · rintro ⟨quote, backslash, printable⟩
    exact ⟨⟨printable, quote⟩, backslash⟩

namespace Quote

def proceed (next : QuoteStep) (rest : List UInt8) : Except Failure (List UInt8 × List UInt8) :=
  match next with
  | .close => .ok ([], rest)
  | .fail => .error .illFormed
  | .go out mode =>
    match bytes mode rest with
    | .ok (text, rest) => .ok (out ++ text, rest)
    | .error e => .error e

theorem bytes_cons (mode : Quote) (b : UInt8) (rest : List UInt8) :
    bytes mode (b :: rest) = proceed (step mode b) rest := rfl

theorem proceed_go (out : List UInt8) (mode : Quote) (rest : List UInt8) :
    (proceed (.go out mode) rest).toOption =
      (bytes mode rest).toOption.map fun p => (out ++ p.1, p.2) := by
  rw [proceed]
  cases bytes mode rest <;> rfl

theorem proceed_silent (mode : Quote) (rest : List UInt8) :
    proceed (.go [] mode) rest = bytes mode rest := by
  rw [proceed]
  cases bytes mode rest <;> rfl

theorem step_plain {b : UInt8} (h : isPlainByte b = true) : step .plain b = .go [b] .plain := by
  obtain ⟨quote, backslash, printable⟩ := isPlainByte_iff.mp h
  simp only [step, if_neg quote, if_neg backslash, if_neg printable]

theorem bytes_plain {run : List UInt8} (h : ∀ b ∈ run, isPlainByte b = true) (rest : List UInt8) :
    (bytes .plain (run ++ rest)).toOption =
      (bytes .plain rest).toOption.map fun p => (run ++ p.1, p.2) := by
  induction run with
  | nil =>
    rw [List.nil_append]
    cases bytes .plain rest <;> rfl
  | cons b run ih =>
    rw [List.forall_mem_cons] at h
    rw [List.cons_append, bytes_cons, step_plain h.1, proceed_go, ih h.2, Option.map_map]
    rfl

theorem bytes_escape (rest : List UInt8) :
    bytes .plain (ascii '\\' :: rest) = bytes .escape rest := by
  rw [bytes_cons]
  exact proceed_silent .escape rest

theorem shortEscape?_of_mem {letter meaning : Char} (h : (letter, meaning) ∈ shortEscapes) :
    ∃ b, shortEscape? (ascii letter) = some b ∧ Utf8.encodeChar meaning = [b] ∧
      ascii letter ≠ ascii 'u' := by
  have all : ∀ pair ∈ shortEscapes, ∃ b, shortEscape? (ascii pair.1) = some b ∧
      Utf8.encodeChar pair.2 = [b] ∧ ascii pair.1 ≠ ascii 'u' := by
    simp only [shortEscapes, List.forall_mem_cons]
    refine ⟨⟨_, rfl, rfl, by decide⟩, ⟨_, rfl, rfl, by decide⟩, ⟨_, rfl, rfl, by decide⟩,
      ⟨_, rfl, rfl, by decide⟩, ⟨_, rfl, rfl, by decide⟩, ⟨_, rfl, rfl, by decide⟩,
      ⟨_, rfl, rfl, by decide⟩, ⟨_, rfl, rfl, by decide⟩, by simp⟩
  exact all _ h

theorem bytes_short {letter meaning : Char} (h : (letter, meaning) ∈ shortEscapes)
    (rest : List UInt8) :
    (bytes .escape (ascii letter :: rest)).toOption =
      (bytes .plain rest).toOption.map fun p => (Utf8.encodeChar meaning ++ p.1, p.2) := by
  obtain ⟨b, escape, written, _⟩ := shortEscape?_of_mem h
  rw [bytes_cons, step, escape, written]
  exact proceed_go [b] .plain rest

theorem addHex_some {n : Nat} {b : UInt8} (h : (hexValue? b).isSome = true) :
    addHex (some n) b = some (n * 16 + (hexValue? b).getD 0) := by
  obtain ⟨d, digit⟩ := Option.isSome_iff_exists.mp h
  rw [addHex, digit]
  rfl

theorem bytes_unit {a b c d : UInt8} (valid : (Piece.unit a b c d).Valid) (high : Option Nat)
    (rest : List UInt8) :
    bytes (.unit high 0 (some 0)) (a :: b :: c :: d :: rest) =
      proceed (ofUnit high (Piece.unitValue a b c d)) rest := by
  simp only [Piece.Valid, List.forall_mem_cons] at valid
  obtain ⟨ha, hb, hc, hd, _⟩ := valid
  have one : bytes (.unit high 0 (some 0)) (a :: b :: c :: d :: rest) =
      bytes (.unit high 3 (some (((hexValue? a).getD 0 * 16 + (hexValue? b).getD 0) * 16 +
        (hexValue? c).getD 0))) (d :: rest) := by
    rw [bytes_cons, step, if_pos (by decide), proceed_silent, addHex_some ha, bytes_cons, step,
      if_pos (by decide), proceed_silent, addHex_some hb, bytes_cons, step, if_pos (by decide),
      proceed_silent, addHex_some hc]
    simp only [Nat.zero_mul, Nat.zero_add, Nat.reduceAdd]
  rw [one, bytes_cons, step, if_neg (by decide), addHex_some hd]
  rfl

theorem isHigh_iff {n : Nat} : isHigh n = true ↔ 0xD800 ≤ n ∧ n ≤ 0xDBFF := by
  simp [isHigh]

theorem isLow_iff {n : Nat} : isLow n = true ↔ 0xDC00 ≤ n ∧ n ≤ 0xDFFF := by
  simp [isLow]

theorem ofUnit_high {n : Nat} (h : 0xD800 ≤ n ∧ n ≤ 0xDBFF) :
    ofUnit none n = .go [] (.pairEscape n) := by
  have noLow : isLow n = false := by
    rw [Bool.eq_false_iff, ne_eq, isLow_iff]
    omega
  rw [ofUnit, noLow, isHigh_iff.mpr h]
  rfl

theorem ofUnit_pair {high low : Nat} (h : 0xDC00 ≤ low ∧ low ≤ 0xDFFF) :
    ofUnit (some high) low = .go (Utf8.encodeChar (Piece.paired high low)) .plain := by
  have joined : (high - 0xD800) * 0x400 + (low - 0xDC00) + 0x10000 =
      0x10000 + (high - 0xD800) * 0x400 + (low - 0xDC00) := by omega
  rw [ofUnit, isLow_iff.mpr h, joined]
  rfl

theorem bytes_unit_plain {a b c d : UInt8} (valid : (Piece.unit a b c d).Valid)
    (rest : List UInt8) :
    bytes .plain (Piece.bytes (.unit a b c d) ++ rest) =
      proceed (ofUnit none (Piece.unitValue a b c d)) rest := by
  rw [← bytes_unit valid none rest]
  change bytes .plain (ascii '\\' :: ascii 'u' :: a :: b :: c :: d :: rest) = _
  rw [bytes_escape, bytes_cons]
  exact proceed_silent _ _

theorem bytes_unit_pair {a b c d : UInt8} (valid : (Piece.unit a b c d).Valid) (high : Nat)
    (rest : List UInt8) :
    bytes (.pairEscape high) (Piece.bytes (.unit a b c d) ++ rest) =
      proceed (ofUnit (some high) (Piece.unitValue a b c d)) rest := by
  rw [← bytes_unit valid (some high) rest]
  change bytes (.pairEscape high) (ascii '\\' :: ascii 'u' :: a :: b :: c :: d :: rest) = _
  rw [bytes_cons, step, if_pos rfl, proceed_silent, bytes_cons, step, if_pos rfl, proceed_silent]

/-- Nothing but another unit is the second half of a pair. -/
theorem bytes_pairEscape_none {later : List Piece} (valid : ∀ piece ∈ later, piece.Valid)
    (other : ∀ a b c d rest, later ≠ .unit a b c d :: rest) (high : Nat) (rest : List UInt8) :
    (bytes (.pairEscape high) (later.flatMap Piece.bytes ++ ascii '"' :: rest)).toOption =
      none := by
  cases later with
  | nil => rfl
  | cons piece later =>
    rw [List.forall_mem_cons] at valid
    cases piece with
    | plain c =>
      obtain ⟨b, more, written, _⟩ := Utf8.encodeChar_eq_cons c
      have plain := isPlainByte_of_mem valid.1 (written ▸ List.mem_cons_self)
      have backslash := (isPlainByte_iff.mp plain).2.1
      simp only [List.flatMap_cons, Piece.bytes, written, List.cons_append, bytes_cons, step,
        if_neg backslash]
      rfl
    | short letter meaning =>
      obtain ⟨_, _, _, noUnit⟩ := shortEscape?_of_mem valid.1
      simp only [List.flatMap_cons, Piece.bytes, List.cons_append, bytes_cons, step, if_true,
        proceed_silent, if_neg noUnit]
      rfl
    | unit a b c d => exact (other a b c d later rfl).elim

theorem bytes_pieces {pieces : List Piece} (valid : ∀ piece ∈ pieces, piece.Valid)
    (rest : List UInt8) :
    (bytes .plain (pieces.flatMap Piece.bytes ++ ascii '"' :: rest)).toOption =
      (Piece.chars? pieces).map fun chars => (Utf8.encode chars, rest) := by
  fun_induction Piece.chars? pieces with
  | case1 => rfl
  | case2 c later ih =>
    rw [List.forall_mem_cons] at valid
    rw [List.flatMap_cons, List.append_assoc, Piece.bytes,
      bytes_plain fun b => isPlainByte_of_mem valid.1, ih valid.2, Option.map_map, Option.map_map]
    rfl
  | case3 letter meaning later ih =>
    rw [List.forall_mem_cons] at valid
    rw [List.flatMap_cons, List.append_assoc, Piece.bytes, List.cons_append, List.cons_append,
      List.nil_append, bytes_escape, bytes_short valid.1, ih valid.2, Option.map_map,
      Option.map_map]
    rfl
  | case4 a b c d n high a' b' c' d' later low range ih =>
    simp only [List.forall_mem_cons] at valid
    rw [List.flatMap_cons, List.flatMap_cons, List.append_assoc, List.append_assoc,
      bytes_unit_plain valid.1, ofUnit_high high, proceed_silent, bytes_unit_pair valid.2.1,
      ofUnit_pair range, proceed_go, ih valid.2.2, Option.map_map, Option.map_map]
    rfl
  | case5 a b c d n high a' b' c' d' later low range =>
    simp only [List.forall_mem_cons] at valid
    have noLow : isLow low = false := Bool.eq_false_iff.mpr (mt isLow_iff.mp range)
    rw [List.flatMap_cons, List.flatMap_cons, List.append_assoc, List.append_assoc,
      bytes_unit_plain valid.1, ofUnit_high high, proceed_silent, bytes_unit_pair valid.2.1, ofUnit,
      noLow]
    rfl
  | case6 a b c d later n high other =>
    rw [List.forall_mem_cons] at valid
    rw [List.flatMap_cons, List.append_assoc, bytes_unit_plain valid.1, ofUnit_high high,
      proceed_silent, bytes_pairEscape_none valid.2 fun a b c d rest => other a b c d rest]
    rfl
  | case7 a b c d later n high low =>
    rw [List.forall_mem_cons] at valid
    rw [List.flatMap_cons, List.append_assoc, bytes_unit_plain valid.1, ofUnit, isLow_iff.mpr low]
    rfl
  | case8 a b c d later n high low ih =>
    rw [List.forall_mem_cons] at valid
    have noHigh : isHigh n = false := Bool.eq_false_iff.mpr (mt isHigh_iff.mp high)
    have noLow : isLow n = false := Bool.eq_false_iff.mpr (mt isLow_iff.mp low)
    rw [List.flatMap_cons, List.append_assoc, bytes_unit_plain valid.1, ofUnit, noHigh, noLow]
    change (proceed (.go (Utf8.encodeChar (Char.ofNat n)) .plain) _).toOption = _
    rw [proceed_go, ih valid.2, Option.map_map, Option.map_map]
    rfl

end Quote

/-- A string literal is read as its text, and as nothing if it has none. -/
theorem Quoted.read_iff {text : Option String} {s : List UInt8} (h : Quoted text s) :
    ∃ t, s = ascii '"' :: t ∧ ∀ rest found r,
      readQuoted (t ++ rest) = .ok (found, r) ↔ text = some found ∧ r = rest := by
  obtain ⟨valid⟩ := h
  refine ⟨_, rfl, fun rest found r => ?_⟩
  have bytes := Quote.bytes_pieces valid rest
  rw [readQuoted, List.append_assoc, List.singleton_append]
  generalize Quote.bytes .plain _ = outcome at bytes
  cases outcome with
  | error e =>
    rw [Option.map_eq_none_iff.mp bytes.symm]
    exact ⟨nofun, nofun⟩
  | ok pair =>
    obtain ⟨chars, stands, same⟩ := Option.map_eq_some_iff.mp bytes.symm
    subst same
    simp only [bind, Except.bind, Utf8.decode?_encode, stands]
    constructor
    · intro read
      obtain ⟨rfl, rfl⟩ := Prod.mk.inj (Except.ok.inj read)
      exact ⟨rfl, rfl⟩
    · rintro ⟨text, rfl⟩
      obtain rfl := Option.some.inj text
      rfl

end OrderLookup.Json
