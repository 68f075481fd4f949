import Mathlib.Data.List.Induction
import Mathlib.Data.Nat.Digits.Defs
import OrderLookup.Proofs.Text.Decimal
import OrderLookup.Proofs.Text.Trim
import OrderLookup.Proofs.Text.Utf8
import OrderLookup.Service.Exchange

/-!
# The time in a header

The first header for the time is read if it holds a numeral, with or without a plus sign, between
spaces and tabs, and the number fits 64 bits (`serverTime?_eq_some_iff`).
-/

namespace OrderLookup.Service

open OrderLookup.Text

/-! ### Texts of times -/

def FirstTime (headers : List (String × List UInt8)) (value : List UInt8) : Prop :=
  ∃ before name later, headers = before ++ (name, value) :: later ∧
    name.toLower = "x-execution-time-ms" ∧ ∀ h ∈ before, h.1.toLower ≠ "x-execution-time-ms"

def Readable (s : List UInt8) : Prop :=
  ∀ b ∈ s, 0x20 ≤ b ∧ b ≤ 0x7E ∨ b = 0x09

def Padding (s : List UInt8) : Prop :=
  ∀ b ∈ s, b = 0x20 ∨ b = 0x09

/-- A numeral of `n`, with or without a plus sign, between spaces and tabs. -/
def TimeText (value : List UInt8) (n : Nat) : Prop :=
  ∃ front sign digits back, value = front ++ (sign ++ digits ++ back) ∧
    Padding front ∧ Padding back ∧ (sign = [] ∨ sign = [0x2B]) ∧ digits ≠ [] ∧
    (∀ d ∈ digits, 0x30 ≤ d ∧ d ≤ 0x39) ∧
    Nat.ofDigits 10 (digits.reverse.map (·.toNat - 0x30)) = n

/-- The first header for the time tells a number that fits 64 bits. -/
def Response.TellsTime (r : Response) (n : Nat) : Prop :=
  ∃ value, FirstTime r.headers value ∧ TimeText value n ∧ n ≤ 2 ^ 64 - 1

theorem header?_eq_some_iff {r : Response} {value : List UInt8} :
    r.header? timeHeader = some value ↔ FirstTime r.headers value := by
  have named (name : String) :
      (name.toList.map Char.toLower == timeHeader.toList) = true ↔
        name.toLower = "x-execution-time-ms" := by
    rw [beq_iff_eq, ← String.toList_map, String.toList_inj]
    rfl
  unfold Response.header? FirstTime
  simp only [Option.map_eq_some_iff, List.find?_eq_some_iff_append, named, Bool.not_eq_true',
    ← Bool.not_eq_true, Prod.exists]
  constructor
  · rintro ⟨name, _, ⟨lower, before, later, split, none⟩, rfl⟩
    exact ⟨before, name, later, split, lower, none⟩
  · rintro ⟨before, name, later, split, lower, none⟩
    exact ⟨name, value, ⟨lower, before, later, split, none⟩, rfl⟩

/-! ### Bytes as characters -/

def charOf (b : UInt8) : Char :=
  Char.ofNat b.toNat

theorem toNat_charOf (b : UInt8) : (charOf b).toNat = b.toNat := by
  have small := b.toNat_lt
  exact Utf8.toNat_ofNat (Or.inl (by omega))

theorem charOf_eq_plus_iff {b : UInt8} : charOf b = '+' ↔ b = 0x2B := by
  rw [← Char.toNat_inj, toNat_charOf, ← UInt8.toNat_inj]
  rfl

theorem isDigit_charOf {b : UInt8} :
    Decimal.isDigit (charOf b) = true ↔ 0x30 ≤ b ∧ b ≤ 0x39 := by
  simp only [Decimal.isDigit, Bool.and_eq_true, decide_eq_true_eq, Char.le_def,
    UInt32.le_iff_toNat_le, UInt8.le_iff_toNat_le]
  rw [← toNat_charOf b]
  rfl

theorem all_isReadable_iff {s : List UInt8} : s.all isReadable = true ↔ Readable s := by
  simp [Readable, isReadable]

theorem readable_append {s t : List UInt8} : Readable (s ++ t) ↔ Readable s ∧ Readable t :=
  List.forall_mem_append

theorem Padding.readable {s : List UInt8} (pads : Padding s) : Readable s := by
  intro b member
  rcases pads b member with rfl | rfl <;> decide

theorem charOf_ascii {c : Char} (digit : Decimal.isDigit c = true) : charOf (Json.ascii c) = c := by
  simp only [Decimal.isDigit, Bool.and_eq_true, decide_eq_true_eq] at digit
  have small : c.toNat ≤ 57 := UInt32.le_iff_toNat_le.mp digit.2
  rw [charOf, Json.ascii, Utf8.toNat_toUInt8 (by omega), Char.ofNat_toNat]

/-- Of the white space only spaces and tabs are readable. -/
theorem isBlank_charOf {b : UInt8} (readable : 0x20 ≤ b ∧ b ≤ 0x7E ∨ b = 0x09) :
    isBlank (charOf b) = true ↔ b = 0x20 ∨ b = 0x09 := by
  simp only [isBlank, toNat_charOf, Bool.or_eq_true, Bool.and_eq_true, decide_eq_true_eq,
    beq_iff_eq, ← UInt8.toNat_inj, UInt8.le_iff_toNat_le] at readable ⊢
  have tab : (0x09 : UInt8).toNat = 9 := rfl
  have space : (0x20 : UInt8).toNat = 32 := rfl
  have tilde : (0x7E : UInt8).toNat = 126 := rfl
  omega

theorem value_charOf (digits : List UInt8) :
    Decimal.value (digits.map charOf) =
      Nat.ofDigits 10 (digits.reverse.map (·.toNat - 0x30)) := by
  induction digits using List.reverseRecOn with
  | nil => rfl
  | append_singleton digits d ih =>
    have last : Decimal.digitValue (charOf d) = d.toNat - 0x30 := by
      rw [Decimal.digitValue, toNat_charOf]
      rfl
    rw [List.map_append, List.map_singleton, Decimal.value_concat, ih, last, List.reverse_append,
      List.reverse_singleton, List.singleton_append, List.map_cons, Nat.ofDigits_cons]
    omega

theorem TimeText.readable {value : List UInt8} {n : Nat} (h : TimeText value n) :
    Readable value := by
  obtain ⟨front, sign, digits, back, rfl, before, after, signed, -, all, -⟩ := h
  simp only [readable_append]
  refine ⟨before.readable, ⟨?_, ?_⟩, after.readable⟩
  · rcases signed with rfl | rfl
    · exact List.forall_mem_nil _
    · exact List.forall_mem_singleton.mpr (by decide)
  · intro d member
    obtain ⟨low, high⟩ := all d member
    rw [UInt8.le_iff_toNat_le] at low high
    left
    rw [UInt8.le_iff_toNat_le, UInt8.le_iff_toNat_le]
    exact ⟨Nat.le_trans (by decide) low, Nat.le_trans high (by decide)⟩

/-! ### Reading a time -/

def unsigned (s : List Char) : List Char :=
  match s with
  | '+' :: rest => rest
  | _ => s

theorem exists_sign (s : List Char) :
    ∃ sign, s = sign ++ unsigned s ∧ (sign = [] ∨ sign = ['+']) := by
  unfold unsigned
  split
  · exact ⟨['+'], rfl, Or.inr rfl⟩
  · exact ⟨[], rfl, Or.inl rfl⟩

theorem unsigned_append {sign digits : List Char} (signed : sign = [] ∨ sign = ['+'])
    (all : ∀ c ∈ digits, Decimal.isDigit c = true) : unsigned (sign ++ digits) = digits := by
  rcases signed with rfl | rfl
  · rw [List.nil_append]
    unfold unsigned
    split
    · next rest =>
      have plus := all '+' List.mem_cons_self
      exact absurd plus (by decide)
    · rfl
  · rfl

theorem readMilliseconds?_iff {s : List Char} {n : Nat} :
    readMilliseconds? s = some n ↔
      unsigned s ≠ [] ∧ (∀ c ∈ unsigned s, Decimal.isDigit c = true) ∧
        Decimal.value (unsigned s) = n ∧ n ≤ maxMilliseconds := by
  change (if (unsigned s).isEmpty || !(unsigned s).all Decimal.isDigit then none
    else if Decimal.value (unsigned s) ≤ maxMilliseconds
    then some (Decimal.value (unsigned s)) else none) = some n ↔ _
  generalize unsigned s = digits
  split
  · next refused =>
    simp only [Bool.or_eq_true, List.isEmpty_iff, Bool.not_eq_true', ← Bool.not_eq_true,
      List.all_eq_true] at refused
    constructor
    · nofun
    · intro ⟨filled, all, _⟩
      exact (refused.elim filled fun other => other all).elim
  · next read =>
    simp only [Bool.or_eq_true, List.isEmpty_iff, Bool.not_eq_true', ← Bool.not_eq_true,
      List.all_eq_true, not_or, Classical.not_not] at read
    rw [Option.ite_none_right_eq_some, Option.some.injEq]
    constructor
    · rintro ⟨small, rfl⟩
      exact ⟨read.1, read.2, rfl, small⟩
    · rintro ⟨_, _, rfl, small⟩
      exact ⟨small, rfl⟩

theorem readMilliseconds?_numeral {sign digits : List Char} (signed : sign = [] ∨ sign = ['+'])
    (filled : digits ≠ []) (all : ∀ c ∈ digits, Decimal.isDigit c = true) :
    readMilliseconds? (sign ++ digits) =
      if Decimal.value digits ≤ maxMilliseconds then some (Decimal.value digits) else none := by
  ext n
  rw [readMilliseconds?_iff, unsigned_append signed all, Option.ite_none_right_eq_some,
    Option.some.injEq]
  constructor
  · rintro ⟨_, _, rfl, small⟩
    exact ⟨small, rfl⟩
  · rintro ⟨small, rfl⟩
    exact ⟨filled, all, rfl, small⟩

theorem Padding.blanks {s : List UInt8} (pads : Padding s) : Blanks (s.map charOf) := by
  intro c member
  obtain ⟨b, listed, rfl⟩ := List.mem_map.mp member
  rcases pads b listed with rfl | rfl <;> rfl

theorem padding_of_blanks {s : List UInt8} (readable : Readable s)
    (blanks : Blanks (s.map charOf)) : Padding s := by
  intro b member
  exact (isBlank_charOf (readable b member)).mp (blanks _ (List.mem_map_of_mem member))

theorem trim_numeral {sign digits : List Char} (signed : sign = [] ∨ sign = ['+'])
    (all : ∀ c ∈ digits, Decimal.isDigit c = true) {s front back : List Char}
    (before : Blanks front) (after : Blanks back) (split : s = front ++ (sign ++ digits ++ back)) :
    trim s = sign ++ digits := by
  have marks : ∀ c ∈ sign ++ digits, isBlank c = false := by
    intro c member
    rcases List.mem_append.mp member with plus | digit
    · rcases signed with rfl | rfl
      · cases plus
      · obtain rfl := List.mem_singleton.mp plus
        rfl
    · exact isBlank_of_isDigit (all c digit)
  have trims : Trims s (sign ++ digits) :=
    ⟨⟨front, back, before, after, split⟩, fun c first => marks c (List.mem_of_mem_head? first),
      fun c last => marks c (List.mem_of_getLast? last)⟩
  exact trims.eq_trim.symm

theorem timeText_of_read {value : List UInt8} {n : Nat} (readable : Readable value)
    (read : readMilliseconds? (trim (value.map charOf)) = some n) :
    TimeText value n ∧ n ≤ maxMilliseconds := by
  obtain ⟨filled, all, number, small⟩ := readMilliseconds?_iff.mp read
  obtain ⟨sign, numeral, signed⟩ := exists_sign (trim (value.map charOf))
  obtain ⟨front, back, before, after, whole⟩ := (trims_trim (value.map charOf)).around
  generalize unsigned (trim (value.map charOf)) = digits at filled all number numeral
  rw [numeral] at whole
  -- The parts of the text are those of the bytes.
  obtain ⟨front, rest, rfl, rfl, inner⟩ := List.map_eq_append_iff.mp whole
  obtain ⟨middle, back, rfl, core, rfl⟩ := List.map_eq_append_iff.mp inner
  obtain ⟨sign, digits, rfl, rfl, rfl⟩ := List.map_eq_append_iff.mp core
  simp only [readable_append] at readable
  refine ⟨⟨front, sign, digits, back, rfl, padding_of_blanks readable.1 before,
    padding_of_blanks readable.2.2 after, ?_, ?_, ?_, ?_⟩, small⟩
  · rcases signed with none | plus
    · exact Or.inl (List.map_eq_nil_iff.mp none)
    · obtain ⟨b, rfl, same⟩ := List.map_eq_singleton_iff.mp plus
      exact Or.inr (congrArg ([·]) (charOf_eq_plus_iff.mp same))
  · intro none
    exact filled (List.map_eq_nil_iff.mpr none)
  · intro d member
    exact isDigit_charOf.mp (all _ (List.mem_map_of_mem member))
  · rw [← value_charOf, number]

theorem TimeText.read {value : List UInt8} {n : Nat} (h : TimeText value n) :
    readMilliseconds? (trim (value.map charOf)) =
      if n ≤ maxMilliseconds then some n else none := by
  obtain ⟨front, sign, digits, back, rfl, before, after, signed, filled, all, rfl⟩ := h
  have plus : sign.map charOf = [] ∨ sign.map charOf = ['+'] := by
    rcases signed with rfl | rfl
    · exact Or.inl rfl
    · exact Or.inr rfl
  have digit : ∀ c ∈ digits.map charOf, Decimal.isDigit c = true := by
    intro c member
    obtain ⟨d, listed, rfl⟩ := List.mem_map.mp member
    exact isDigit_charOf.mpr (all d listed)
  have trimmed : trim ((front ++ (sign ++ digits ++ back)).map charOf) =
      sign.map charOf ++ digits.map charOf :=
    trim_numeral plus digit before.blanks after.blanks (by simp only [List.map_append])
  rw [trimmed, readMilliseconds?_numeral plus (mt List.map_eq_nil_iff.mp filled) digit,
    value_charOf]

/-! ### The header -/

variable {r : Response} {value : List UInt8} {n : Nat}

theorem serverTime?_eq (r : Response) :
    r.serverTime? = (r.header? timeHeader).bind fun value =>
      if value.all isReadable then readMilliseconds? (trim (value.map charOf)) else none := rfl

theorem serverTime?_of_timeText (first : FirstTime r.headers value) (text : TimeText value n) :
    r.serverTime? = if n ≤ maxMilliseconds then some n else none := by
  rw [serverTime?_eq, header?_eq_some_iff.mpr first, Option.bind_some,
    if_pos (all_isReadable_iff.mpr text.readable), text.read]

theorem serverTime?_eq_some_iff : r.serverTime? = some n ↔ r.TellsTime n := by
  change _ ↔ ∃ value, FirstTime r.headers value ∧ TimeText value n ∧ n ≤ maxMilliseconds
  constructor
  · intro read
    rw [serverTime?_eq, Option.bind_eq_some_iff] at read
    obtain ⟨value, found, read⟩ := read
    rw [Option.ite_none_right_eq_some, all_isReadable_iff] at read
    exact ⟨value, header?_eq_some_iff.mp found, timeText_of_read read.1 read.2⟩
  · rintro ⟨value, first, text, small⟩
    rw [serverTime?_of_timeText first text, if_pos small]

theorem timeText_natText {front back : List UInt8} (before : Padding front) (after : Padding back)
    (n : Nat) : TimeText (front ++ (Json.asciiBytes (natText n) ++ back)) n := by
  have same : (Json.asciiBytes (natText n)).map charOf = Decimal.ofNat n := by
    rw [Json.asciiBytes, natText, String.toList_ofList, List.map_map]
    apply (List.map_congr_left (g := id) ?_).trans (List.map_id _)
    intro c member
    exact charOf_ascii (Decimal.isDigit_of_mem_ofNat member)
  refine ⟨front, [], Json.asciiBytes (natText n), back, rfl, before, after, Or.inl rfl, ?_, ?_, ?_⟩
  · intro none
    rw [none] at same
    exact Decimal.ofNat_ne_nil n same.symm
  · intro d member
    apply isDigit_charOf.mp
    apply Decimal.isDigit_of_mem_ofNat (n := n)
    rw [← same]
    exact List.mem_map_of_mem member
  · rw [← value_charOf, same, Decimal.value_ofNat]

/-! ### One digit at a time -/

/-- Reads digits into a 64-bit word, and gives up at the first that does not fit. -/
def accumulate? (n : UInt64) : List Char → Option UInt64
  | [] => some n
  | c :: rest =>
    if n.toNat * 10 + Decimal.digitValue c < 2 ^ 64
    then accumulate? (n * 10 + (Decimal.digitValue c).toUInt64) rest else none

theorem le_foldl_digits (digits : List Char) (n : Nat) :
    n ≤ digits.foldl (fun n c => n * 10 + Decimal.digitValue c) n := by
  induction digits generalizing n with
  | nil => exact Nat.le_refl n
  | cons c rest ih =>
    have later := ih (n * 10 + Decimal.digitValue c)
    rw [List.foldl_cons]
    omega

theorem accumulate?_eq (digits : List Char) (n : UInt64) :
    (accumulate? n digits).map UInt64.toNat =
      let total := digits.foldl (fun n c => n * 10 + Decimal.digitValue c) n.toNat
      if total ≤ maxMilliseconds then some total else none := by
  induction digits generalizing n with
  | nil =>
    have fits : n.toNat ≤ maxMilliseconds := by
      have word := n.toNat_lt
      unfold maxMilliseconds
      omega
    simp [accumulate?, fits]
  | cons c rest ih =>
    have grown := le_foldl_digits rest (n.toNat * 10 + Decimal.digitValue c)
    unfold accumulate?
    split
    · next fits =>
      have step : (n * 10 + (Decimal.digitValue c).toUInt64).toNat =
          n.toNat * 10 + Decimal.digitValue c := by
        have ten : (10 : UInt64).toNat = 10 := rfl
        simp only [Nat.toUInt64, UInt64.toNat_add, UInt64.toNat_mul, UInt64.toNat_ofNat', ten]
        omega
      rw [ih, step, List.foldl_cons]
    · next large =>
      -- What one step makes too large, no later step makes smaller.
      have larger : ¬rest.foldl (fun n c => n * 10 + Decimal.digitValue c)
          (n.toNat * 10 + Decimal.digitValue c) ≤ maxMilliseconds := by
        unfold maxMilliseconds
        omega
      rw [List.foldl_cons]
      exact (if_neg larger).symm

theorem readMilliseconds?_accumulate {digits : List Char} (filled : digits ≠ [])
    (all : ∀ c ∈ digits, Decimal.isDigit c = true) :
    readMilliseconds? digits = (accumulate? 0 digits).map UInt64.toNat := by
  rw [accumulate?_eq]
  exact readMilliseconds?_numeral (Or.inl rfl) filled all

end OrderLookup.Service
