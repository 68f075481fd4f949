import Mathlib.Data.List.Forall2
import Mathlib.Data.List.Nodup
import Mathlib.Tactic.Choose
import OrderLookup.Proofs.Json.Object
import OrderLookup.Proofs.Json.Quoted
import OrderLookup.Proofs.Text.Decimal

/-!
# Codecs write what means the value

Every written literal is in the grammar and stands for what was written: texts, integers, `null`,
arrays and records.
-/

namespace OrderLookup.Json

open OrderLookup.Text

/-! ### String literals -/

theorem eq_of_toNat {c : Char} {n : Nat} (h : c.toNat = n) : c = Char.ofNat n :=
  h ▸ (Char.ofNat_toNat c).symm

theorem escapeChar_cases (c : Char) :
    (∃ letter, (letter, c) ∈ shortEscapes ∧ escapeChar c = [ascii '\\', ascii letter]) ∨
      (c.toNat < 0x20 ∧ escapeChar c = asciiBytes "\\u00" ++
        [ascii (Quoted.lowerHexDigit (c.toNat / 16)),
          ascii (Quoted.lowerHexDigit (c.toNat % 16))]) ∨
      ((Piece.plain c).Valid ∧ escapeChar c = Utf8.encodeChar c) := by
  unfold escapeChar
  split
  · next same =>
    subst same
    exact Or.inl ⟨'"', by decide, rfl⟩
  next noQuote =>
  split
  · next same =>
    subst same
    exact Or.inl ⟨'\\', by decide, rfl⟩
  next noBackslash =>
  split
  · next same =>
    obtain rfl := eq_of_toNat same
    exact Or.inl ⟨'b', by decide, rfl⟩
  split
  · next same =>
    obtain rfl := eq_of_toNat same
    exact Or.inl ⟨'f', by decide, rfl⟩
  split
  · next same =>
    subst same
    exact Or.inl ⟨'n', by decide, rfl⟩
  split
  · next same =>
    subst same
    exact Or.inl ⟨'r', by decide, rfl⟩
  split
  · next same =>
    subst same
    exact Or.inl ⟨'t', by decide, rfl⟩
  split
  · next control => exact Or.inr (Or.inl ⟨control, rfl⟩)
  · next printable => exact Or.inr (Or.inr ⟨⟨Nat.not_lt.mp printable, noQuote, noBackslash⟩, rfl⟩)

theorem unitValue_control {n : Nat} (h : n < 0x20) :
    (Piece.unit (ascii '0') (ascii '0') (ascii (Quoted.lowerHexDigit (n / 16)))
      (ascii (Quoted.lowerHexDigit (n % 16)))).Valid ∧
    Piece.unitValue (ascii '0') (ascii '0') (ascii (Quoted.lowerHexDigit (n / 16)))
      (ascii (Quoted.lowerHexDigit (n % 16))) = n := by
  have all : ∀ n < 0x20,
      (∀ digit ∈ [ascii '0', ascii '0', ascii (Quoted.lowerHexDigit (n / 16)),
        ascii (Quoted.lowerHexDigit (n % 16))], (hexValue? digit).isSome = true) ∧
      Piece.unitValue (ascii '0') (ascii '0') (ascii (Quoted.lowerHexDigit (n / 16)))
        (ascii (Quoted.lowerHexDigit (n % 16))) = n := by decide +kernel
  exact all n h

/-- A character is written as one piece, and stands for itself. -/
theorem exists_piece (c : Char) : ∃ piece : Piece, piece.Valid ∧ piece.bytes = escapeChar c ∧
    ∀ later, Piece.chars? (piece :: later) = (Piece.chars? later).map (c :: ·) := by
  rcases escapeChar_cases c with ⟨letter, listed, written⟩ | ⟨control, written⟩ | ⟨plain, written⟩
  · exact ⟨.short letter c, listed, written.symm, fun _ => rfl⟩
  · obtain ⟨valid, value⟩ := unitValue_control control
    refine ⟨_, valid, written.symm, fun later => ?_⟩
    conv_lhs => rw [Piece.chars?.eq_def]
    dsimp only
    rw [value, if_neg (by omega), if_neg (by omega), Char.ofNat_toNat]
  · exact ⟨.plain c, plain, written.symm, fun _ => rfl⟩

theorem quoted_quote (s : String) : Quoted (some s) (quote s) := by
  have pieces (chars : List Char) : ∃ pieces : List Piece, (∀ piece ∈ pieces, piece.Valid) ∧
      pieces.flatMap Piece.bytes = chars.flatMap escapeChar ∧
      Piece.chars? pieces = some chars := by
    induction chars with
    | nil => exact ⟨[], by simp, rfl, rfl⟩
    | cons c chars ih =>
      obtain ⟨piece, valid, bytes, stands⟩ := exists_piece c
      obtain ⟨pieces, valids, written, chars⟩ := ih
      refine ⟨piece :: pieces, List.forall_mem_cons.mpr ⟨valid, valids⟩, ?_, ?_⟩
      · rw [List.flatMap_cons, List.flatMap_cons, bytes, written]
      · rw [stands, chars, Option.map_some]
  obtain ⟨pieces, valid, written, chars⟩ := pieces s.toList
  have quoted := Quoted.intro valid
  rw [written, chars, Option.map_some, String.ofList_toList] at quoted
  exact quoted

/-! ### Integer literals -/

theorem digit_of_lt {d : Nat} (h : d < 10) : isDigit (ascii (Decimal.digitChar d)) = true ∧
    digitValue (ascii (Decimal.digitChar d)) = d ∧
    (ascii (Decimal.digitChar d) = ascii '0' → d = 0) := by
  have all : ∀ d < 10, isDigit (ascii (Decimal.digitChar d)) = true ∧
      digitValue (ascii (Decimal.digitChar d)) = d ∧
      (ascii (Decimal.digitChar d) = ascii '0' → d = 0) := by decide
  exact all d h

theorem natOf_concat (digits : List UInt8) (b : UInt8) :
    Literal.natOf (digits ++ [b]) = Literal.natOf digits * 10 + digitValue b := by
  simp [Literal.natOf]

/-- The shortest numeral: digits, no zero in front unless it is the only one, and its value. -/
theorem ofNat_digits (n : Nat) :
    Digits ((Decimal.ofNat n).map ascii) ∧ Literal.natOf ((Decimal.ofNat n).map ascii) = n ∧
      (((Decimal.ofNat n).map ascii).head? = some (ascii '0') → n = 0) := by
  fun_induction Decimal.ofNat n with
  | case1 n small =>
    obtain ⟨digit, value, zero⟩ := digit_of_lt small
    refine ⟨⟨by simp, by simpa using digit⟩, ?_, ?_⟩
    · simpa [Literal.natOf] using value
    · simpa using zero
  | case2 n large ih =>
    obtain ⟨⟨some, digits⟩, value, zero⟩ := ih
    obtain ⟨digit, last, _⟩ := digit_of_lt (Nat.mod_lt n (by decide : 10 > 0))
    rw [Decimal.digitChar_mod] at digit last
    rw [List.map_append, List.map_singleton]
    refine ⟨⟨by simp, ?_⟩, ?_, ?_⟩
    · rw [List.forall_mem_append, List.forall_mem_singleton]
      exact ⟨digits, digit⟩
    · rw [natOf_concat, value, last]
      omega
    · rw [List.head?_append_of_ne_nil _ some]
      intro first
      have := zero first
      omega

theorem ofNat_valid (n : Nat) : (Literal.mk ((Decimal.ofNat n).map ascii) [] none).Valid := by
  obtain ⟨digits, _, zero⟩ := ofNat_digits n
  refine ⟨digits, fun first => ?_, by simp, nofun⟩
  rw [zero first]
  simp [Decimal.ofNat, show ascii (Decimal.digitChar 0) = ascii '0' from rfl]

namespace Codec

variable {β : Type} {c : Codec β} {m : Meaning β}

theorem text_writes : text.Writes Meaning.text :=
  fun s => ⟨.string (some s), .string (quoted_quote s), rfl⟩

theorem integer_writes : integer.Writes Meaning.integer := by
  intro z
  have valid := ofNat_valid z.toInt.natAbs
  obtain ⟨_, value, _⟩ := ofNat_digits z.toInt.natAbs
  refine ⟨.number (decide (z.toInt < 0)) ⟨(Decimal.ofNat z.toInt.natAbs).map ascii, [], none⟩, ?_,
    decide (z.toInt < 0), _, rfl, ?_, ?_⟩
  · have spelled := Spells.number (decide (z.toInt < 0)) valid .none
    rw [List.append_nil] at spelled
    have written : integer.write z = (if decide (z.toInt < 0) then [ascii '-'] else []) ++
        ((Decimal.ofNat z.toInt.natAbs).map ascii ++ pointed []) := by
      change (Decimal.ofInt z.toInt).map ascii = _
      rw [Decimal.ofInt, pointed, if_pos rfl, List.append_nil]
      by_cases negative : z.toInt < 0
      · simp [negative]
      · simp [negative]
    rw [written]
    exact spelled
  · rw [value, decide_eq_true_eq]
    omega
  · simp only [value, decide_eq_true_eq]
    omega

theorem nullable_writes (writes : c.Writes m) (proper : ∀ b, ¬m .null b) :
    (nullable c).Writes (Meaning.nullable m) := by
  intro o
  cases o with
  | none => exact ⟨.null, .null, rfl⟩
  | some b =>
    obtain ⟨v, spelled, means⟩ := writes b
    refine ⟨v, spelled, ?_, means⟩
    rintro rfl
    exact proper b means

end Codec

/-! ### Arrays and records -/

theorem Spells.padded_self {v : Value} {s : List UInt8} (h : Spells (.value v) s) :
    Spells (.padded v) s := by
  have padded := Spells.padded blank_nil h blank_nil
  rwa [List.nil_append, List.append_nil] at padded

theorem Spells.object_cons {m : Option String × Value} {ms : Members} {t : List UInt8}
    (h : Spells (.value (.object (m :: ms))) (ascii '{' :: t)) {key : Option String} {v : Value}
    {s : List UInt8} (first : Spells (.member key v) s) :
    Spells (.value (.object ((key, v) :: m :: ms))) (ascii '{' :: (s ++ ascii ',' :: t)) := by
  cases h with
  | object inside =>
    have joined := Spells.object (.moreMembers first inside)
    rwa [List.append_assoc, List.cons_append] at joined

/-- Parts with commas between them, as elements or as members. -/
theorem spells_separated {α : Type} (part : List α → Part) {single : α → List UInt8 → Prop}
    (none : Spells (part []) []) (one : ∀ {a s}, single a s → Spells (part [a]) s)
    (more : ∀ {a b as s t}, single a s → Spells (part (b :: as)) t →
      Spells (part (a :: b :: as)) (s ++ ascii ',' :: t))
    {as : List α} {parts : List (List UInt8)} (h : List.Forall₂ single as parts) :
    Spells (part as) (Codec.separated parts) := by
  induction h with
  | nil => exact none
  | cons first later ih =>
    cases later with
    | nil => exact one first
    | cons second later => exact more first ih

theorem spells_array {vs : List Value} {parts : List (List UInt8)}
    (h : List.Forall₂ (fun v s => Spells (.value v) s) vs parts) :
    Spells (.value (.array vs)) (ascii '[' :: (Codec.separated parts ++ [ascii ']'])) := by
  have padded := h.imp fun _ _ spelled => spelled.padded_self
  exact .array (spells_separated .elements (.noElement blank_nil) .element .moreElements padded)

theorem spells_object {ms : Members} {parts : List (List UInt8)}
    (h : List.Forall₂ (fun m s => Spells (.member m.1 m.2) s) ms parts) :
    Spells (.value (.object ms)) (ascii '{' :: (Codec.separated parts ++ [ascii '}'])) :=
  .object (spells_separated .members (.noMember blank_nil) .member .moreMembers h)

theorem Spells.keyed_self {v : Value} {s : List UInt8} (h : Spells (.value v) s) (key : String) :
    Spells (.member (some key) v) (quote key ++ ascii ':' :: s) :=
  .keyed blank_nil (quoted_quote key) blank_nil h.padded_self

namespace Codec

variable {β : Type} {c : Codec β} {m : Meaning β}

theorem list_writes (writes : c.Writes m) : (list c).Writes (Meaning.list m) := by
  intro bs
  choose value spelled means using writes
  have parts : List.Forall₂ (fun v s => Spells (.value v) s) (bs.map value) (bs.map c.write) := by
    rw [List.forall₂_map_left_iff, List.forall₂_map_right_iff, List.forall₂_same]
    exact fun b _ => spelled b
  refine ⟨.array (bs.map value), spells_array parts, _, rfl, ?_⟩
  rw [List.forall₂_map_left_iff, List.forall₂_same]
  exact fun b _ => means b

theorem listOrNull_writes (writes : c.Writes m) :
    (listOrNull c).Writes (Meaning.listOrNull m) := by
  intro bs
  obtain ⟨v, spelled, means⟩ := list_writes writes bs
  exact ⟨v, spelled, Or.inr means⟩

end Codec

namespace Slot

variable {α : Type} {slots : List (Slot α)}

def named (slots : List (Slot α)) (vs : List Value) : Members :=
  (slots.zip vs).map fun entry => (some entry.1.key, entry.2)

section named

variable {P : Slot α → Value → Prop} {part : List (Slot α)} {vs : List Value}

theorem keys_named (h : List.Forall₂ P part vs) :
    (named part vs).map (·.1) = (part.map (·.key)).map some := by
  have all : (part.zip vs).map Prod.fst = part := List.map_fst_zip h.length_eq.le
  rw [named, List.map_map, List.map_map]
  conv_rhs => rw [← all, List.map_map]
  rfl

theorem exists_named (h : List.Forall₂ P part vs) {slot : Slot α} (listed : slot ∈ part) :
    ∃ v, (some slot.key, v) ∈ named part vs ∧ P slot v := by
  rw [← List.map_fst_zip h.length_eq.le, List.mem_map] at listed
  obtain ⟨⟨slot, v⟩, entry, rfl⟩ := listed
  exact ⟨v, List.mem_map_of_mem entry, List.forall₂_zip h entry⟩

/-- Members that name the contents describe the record, also without slots that may be left out. -/
theorem describes_named (independent : Independent slots) (sublist : part.Sublist slots)
    {blank a : α} (left : ∀ slot ∈ slots, slot ∈ part ∨
      slot.optional = true ∧ slot.get a = slot.get blank)
    (values : List.Forall₂ (fun slot v => slot.meaning v (slot.get a)) part vs) :
    Describes slots blank (named part vs) a where
  named m member := by
    have key : m.1 ∈ (named part vs).map (·.1) := List.mem_map_of_mem member
    rw [keys_named values, List.mem_map] at key
    obtain ⟨_, _, same⟩ := key
    rw [← same, Option.isSome_some]
  once slot _ := by
    have distinct := independent.distinct.sublist (sublist.map (·.key))
    rw [occurrences, keys_named values]
    exact List.nodup_iff_count_le_one.mp (distinct.map fun _ _ => Option.some.inj) _
  each slot listed := by
    by_cases kept : slot ∈ part
    · exact Or.inl (exists_named values kept)
    · obtain ⟨optional, same⟩ := (left slot listed).resolve_left kept
      refine Or.inr ⟨optional, ?_, same⟩
      rw [occurrences_eq_zero]
      intro v member
      obtain ⟨⟨other, _⟩, entry, key⟩ := List.mem_map.mp member
      have own : other ∈ part := (List.of_mem_zip entry).1
      have found := independent.eq_of_key (sublist.subset own) listed
        (Option.some.inj (congrArg Prod.fst key))
      exact kept (found ▸ own)

end named

theorem members_named (slots : List (Slot α)) {vs : List Value} {parts : List (List UInt8)}
    (h : List.Forall₂ (fun v s => Spells (.value v) s) vs parts) :
    List.Forall₂ (fun m s => Spells (.member m.1 m.2) s) (named slots vs)
      ((slots.zip parts).map fun entry => quote entry.1.key ++ ascii ':' :: entry.2) := by
  induction slots generalizing vs parts with
  | nil => exact .nil
  | cons slot later ih =>
    cases h with
    | nil => exact .nil
    | cons first rest => exact .cons (first.keyed_self slot.key) (ih rest)

/-- The contents of a record can be written one by one. -/
theorem exists_values (slots : List (Slot α)) (a : α) :
    ∃ vs, List.Forall₂ (fun slot v => slot.meaning v (slot.get a)) slots vs ∧
      List.Forall₂ (fun v s => Spells (.value v) s) vs
        (slots.map fun slot => slot.codec.write (slot.get a)) := by
  choose value spelled means using fun slot : Slot α => slot.writes (slot.get a)
  refine ⟨slots.map value, ?_, ?_⟩
  · rw [List.forall₂_map_right_iff, List.forall₂_same]
    exact fun slot _ => means slot
  · rw [List.forall₂_map_left_iff, List.forall₂_map_right_iff, List.forall₂_same]
    exact fun slot _ => spelled slot

/-- A record is written as an object that describes it. -/
theorem record_written (independent : Independent slots) {shape : Shape α}
    (same : shape.members = slots.map member) (a : α) :
    ∃ ms, Spells (.value (.object ms)) (shape.codec.write a) ∧ ms.length = slots.length ∧
      Describes slots shape.blank ms a := by
  obtain ⟨vs, values, parts⟩ := exists_values slots a
  refine ⟨named slots vs, ?_, ?_,
    describes_named independent (.refl slots) (fun _ => Or.inl) values⟩
  · have written := spells_object (members_named slots parts)
    rw [← List.map_prod_left_eq_zip, List.map_map] at written
    change Spells _ (ascii '{' :: (Codec.separated (shape.members.map _) ++ [ascii '}']))
    rw [same, List.map_map]
    exact written
  · rw [named, List.length_map, List.length_zip, ← values.length_eq, Nat.min_self]

theorem record_writes (independent : Independent slots) {shape : Shape α}
    (same : shape.members = slots.map member) :
    shape.codec.Writes (record slots shape.blank) := by
  intro a
  obtain ⟨ms, spelled, _, describes⟩ := record_written independent same a
  exact ⟨.object ms, spelled, describes⟩

theorem record_proper {blank : α} (a : α) : ¬record slots blank .null a := id

end Slot

end OrderLookup.Json
