import OrderLookup.Proofs.Url.Form
import OrderLookup.Url.Reserved

/-!
# Pairs of an encoded query

A URL keeps its query percent-encoded. `Form.read_encode` says that this hides no pair and makes up
none, since what is encoded means nothing in the written form of pairs: no mark, no plus sign and no
part of an escape.
-/

namespace OrderLookup.Text.Percent

/-- `t` is `s` with some characters percent-encoded, none of which can be part of an escape. -/
inductive Escaped : List Char → List Char → Prop
  | nil : Escaped [] []
  | keep (c : Char) {s t : List Char} (h : Escaped s t) : Escaped (c :: s) (c :: t)
  | escape {c : Char} (mark : c ≠ '%') (digit : hexValue? c = none) {s t : List Char}
    (h : Escaped s t) : Escaped (c :: s) ((Utf8.encodeChar c).flatMap encodeByte ++ t)

theorem byte?_of_high {high low : Char} (h : hexValue? high = none) : byte? high low = none := by
  rw [byte?, h]
  rfl

theorem byte?_of_low {high low : Char} (h : hexValue? low = none) : byte? high low = none := by
  rw [byte?, h]
  cases hexValue? high <;> rfl

def pair? : List Char → Option UInt8
  | high :: low :: _ => byte? high low
  | _ => none

theorem pair?_percent (t : List Char) : pair? ('%' :: t) = none := by
  match t with
  | [] => rfl
  | c :: rest => exact byte?_of_high rfl

theorem decode_percent {t : List Char} (h : pair? t = none) :
    decode ('%' :: t) = Utf8.encodeChar '%' ++ decode t := by
  match t with
  | [] => rfl
  | [c] => rfl
  | high :: low :: rest =>
    change byte? high low = none at h
    rw [decode, h]

theorem exists_percent_of_encodeChar (c : Char) :
    ∃ rest, (Utf8.encodeChar c).flatMap encodeByte = '%' :: rest := by
  unfold Utf8.encodeChar
  dsimp only
  split
  · exact ⟨_, rfl⟩
  · split
    · exact ⟨_, rfl⟩
    · split <;> exact ⟨_, rfl⟩

/-- Encoding does not give a percent sign digits that it had not. -/
theorem Escaped.pair? {s t : List Char} (h : Escaped s t) (alone : Percent.pair? s = none) :
    Percent.pair? t = none := by
  cases h with
  | nil => rfl
  | escape =>
    next c _ _ _ _ _ =>
    obtain ⟨rest, written⟩ := exists_percent_of_encodeChar c
    rw [written]
    exact pair?_percent (rest ++ _)
  | keep high h =>
    cases h with
    | nil => rfl
    | keep low => exact alone
    | escape =>
      next c _ _ _ _ _ =>
      obtain ⟨rest, written⟩ := exists_percent_of_encodeChar c
      rw [written]
      exact byte?_of_low rfl

theorem hexValue?_of_byte? {high low : Char} {b : UInt8} (h : byte? high low = some b) :
    hexValue? high ≠ none ∧ hexValue? low ≠ none := by
  constructor
  · intro none
    rw [byte?_of_high none] at h
    cases h
  · intro none
    rw [byte?_of_low none] at h
    cases h

/-- An escape is kept whole, for its digits are. -/
theorem Escaped.of_byte? {high low : Char} {s t : List Char} {b : UInt8}
    (h : Escaped (high :: low :: s) t) (digits : byte? high low = some b) :
    ∃ rest, t = high :: low :: rest ∧ Escaped s rest := by
  obtain ⟨highDigit, lowDigit⟩ := hexValue?_of_byte? digits
  cases h with
  | escape _ other => exact (highDigit other).elim
  | keep _ h =>
    cases h with
    | escape _ other => exact (lowDigit other).elim
    | keep _ h => exact ⟨_, rfl, h⟩

theorem decode_of_escaped {s t : List Char} (h : Escaped s t) : decode t = decode s := by
  fun_induction decode s generalizing t with
  | case1 high low s b digits ih =>
    cases h with
    | escape mark => exact (mark rfl).elim
    | keep _ h =>
      obtain ⟨rest, rfl, later⟩ := h.of_byte? digits
      rw [decode, digits]
      exact congrArg (b :: ·) (ih later)
  | case2 high low s digits ih =>
    cases h with
    | escape mark => exact (mark rfl).elim
    | keep _ h => rw [decode_percent (h.pair? digits), ih h]
  | case3 c s short ih =>
    cases h with
    | escape mark digit h =>
      rw [decode_flatMap_encodeByte_append, ih h]
    | keep _ h =>
      by_cases mark : c = '%'
      · subst mark
        have alone : pair? s = none := by
          rcases s with _ | ⟨high, _ | ⟨low, rest⟩⟩
          · rfl
          · rfl
          · exact (short high low rest rfl rfl).elim
        rw [decode_percent (h.pair? alone), ih h]
      · rw [decode_cons_of_ne mark, ih h]
  | case4 =>
    cases h
    rfl

end OrderLookup.Text.Percent

namespace OrderLookup.Url.Form

open OrderLookup.Text

def isMark (c : Char) : Bool :=
  c ∈ ['&', '=', '+', '%'] || (Percent.hexValue? c).isSome

theorem isAscii_of_hexValue? {c : Char} (h : (Percent.hexValue? c).isSome = true) :
    Percent.isAscii c = true := by
  have upper : c ≤ 'f' := by
    unfold Percent.hexValue? at h
    split at h
    · next digit =>
      simp only [Bool.and_eq_true, decide_eq_true_eq] at digit
      exact Char.le_trans digit.2 (by decide)
    · split at h
      · next small =>
        simp only [Bool.and_eq_true, decide_eq_true_eq] at small
        exact small.2
      · split at h
        · next capital =>
          simp only [Bool.and_eq_true, decide_eq_true_eq] at capital
          exact Char.le_trans capital.2 (by decide)
        · cases h
  have bound : c.toNat ≤ 0x66 := upper
  exact decide_eq_true (by omega)

theorem isAscii_of_isMark {c : Char} (h : isMark c = true) : Percent.isAscii c = true := by
  simp only [isMark, Bool.or_eq_true, decide_eq_true_eq, List.mem_cons, List.not_mem_nil,
    or_false] at h
  rcases h with (rfl | rfl | rfl | rfl) | digit
  · rfl
  · rfl
  · rfl
  · rfl
  · exact isAscii_of_hexValue? digit

section Encoded

variable {reserved : Char → Bool} (marks : ∀ c, isMark c = true → reserved c = false)

include marks

theorem encodeChar_of_isMark {c : Char} (h : isMark c = true) :
    Percent.encodeChar reserved c = [c] := by
  rw [Percent.encodeChar, isAscii_of_isMark h, marks c h]
  rfl

/-- A character is kept, or is encoded and means nothing. -/
theorem encodeChar_cases (c : Char) :
    Percent.encodeChar reserved c = [c] ∨
      isMark c = false ∧
        Percent.encodeChar reserved c = (Utf8.encodeChar c).flatMap Percent.encodeByte := by
  cases mark : isMark c with
  | true => exact Or.inl (encodeChar_of_isMark marks mark)
  | false =>
    rw [Percent.encodeChar]
    split
    · exact Or.inl rfl
    · exact Or.inr ⟨rfl, rfl⟩

/-- No mark that cannot be part of an escape comes up. -/
theorem not_mem_encodeChar {mark c : Char} (other : Percent.isEscape mark = false) (h : c ≠ mark) :
    mark ∉ Percent.encodeChar reserved c := by
  rcases encodeChar_cases marks c with kept | ⟨_, encoded⟩
  · rw [kept, List.mem_singleton]
    exact Ne.symm h
  · rw [encoded]
    intro member
    rw [Percent.isEscape_of_mem_flatMap member] at other
    cases other

theorem escaped_encode (s : List Char) :
    Percent.Escaped (s.map blankForPlus) ((Percent.encode reserved s).map blankForPlus) := by
  induction s with
  | nil => exact .nil
  | cons c s ih =>
    rw [Percent.encode, List.flatMap_cons, ← Percent.encode, List.map_append, List.map_cons]
    rcases encodeChar_cases marks c with kept | ⟨nothing, encoded⟩
    · rw [kept]
      exact .keep (blankForPlus c) ih
    · simp only [isMark, Bool.or_eq_false_iff, decide_eq_false_iff_not, List.mem_cons,
        List.not_mem_nil, or_false, not_or, Option.isSome_eq_false_iff, Option.isNone_iff_eq_none]
        at nothing
      obtain ⟨⟨_, _, noPlus, noPercent⟩, noDigit⟩ := nothing
      rw [encoded, map_blankForPlus_of_isEscape fun d h => Percent.isEscape_of_mem_flatMap h,
        blankForPlus, if_neg noPlus]
      exact .escape noPercent noDigit ih

theorem decode_percentEncode (s : List Char) : decode (Percent.encode reserved s) = decode s :=
  congrArg Utf8.decodeLossy (Percent.decode_of_escaped (escaped_encode marks s))

theorem readPair_encode (part : List Char) :
    readPair (Percent.encode reserved part) = readPair part := by
  have cuts := cut_flatMap (encodeChar_of_isMark marks (c := '=') rfl)
    (fun c h => not_mem_encodeChar marks rfl h) part
  rw [readPair, readPair, Percent.encode, cuts]
  dsimp only
  rw [← Percent.encode, decode_percentEncode marks]
  cases (cut '=' part).2 with
  | none => rfl
  | some value => exact congrArg (_, ·) (decode_percentEncode marks value)

theorem isEmpty_encode (s : List Char) : (Percent.encode reserved s).isEmpty = s.isEmpty := by
  cases s with
  | nil => rfl
  | cons c s =>
    rw [Percent.encode, List.flatMap_cons]
    rcases encodeChar_cases marks c with kept | ⟨_, encoded⟩
    · rw [kept]
      rfl
    · obtain ⟨rest, written⟩ := Percent.exists_percent_of_encodeChar c
      rw [encoded, written]
      rfl

/-- Encoding a query that keeps every mark keeps its pairs. -/
theorem read_encode (s : List Char) : read (Percent.encode reserved s) = read s := by
  have parts : splitAt (· == '&') (Percent.encode reserved s) =
      (splitAt (· == '&') s).map (Percent.encode reserved) := by
    refine splitAt_flatMap ?_ ?_ s
    · intro c same
      obtain rfl := eq_of_beq same
      exact encodeChar_of_isMark marks rfl
    · intro c other d member
      rw [beq_eq_false_iff_ne] at other ⊢
      rintro rfl
      exact not_mem_encodeChar marks rfl other member
  have empty : (fun part : List Char => !part.isEmpty) ∘ Percent.encode reserved =
      fun part => !part.isEmpty :=
    funext fun part => congrArg (!·) (isEmpty_encode marks part)
  have pairs : readPair ∘ Percent.encode reserved = readPair := funext (readPair_encode marks)
  rw [read, read, parts, List.filter_map, List.map_map, empty, pairs]

end Encoded

end OrderLookup.Url.Form

namespace OrderLookup.Url.Reserved

/-- A query keeps what its pairs are written with. -/
theorem specialQuery_of_isMark {c : Char} (h : Form.isMark c = true) : specialQuery c = false := by
  have all : ∀ n < 0x80, Form.isMark (Char.ofNat n) = true →
      specialQuery (Char.ofNat n) = false := by decide
  have ascii : c.toNat < 0x80 := of_decide_eq_true (Form.isAscii_of_isMark h)
  have back : Char.ofNat c.toNat = c := Char.ofNat_toNat c
  have found := all c.toNat ascii
  rw [back] at found
  exact found h

end OrderLookup.Url.Reserved
