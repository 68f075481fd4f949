import Mathlib.Data.List.TakeWhile
import OrderLookup.Proofs.Json.Record

/-!
# What was there

What a reader that succeeded had in front of it: marks with the white space before them, words,
digits, and what comes between the elements of arrays and the members of objects.
-/

namespace OrderLookup.Json

theorem nextByte_eq_ok {s r : List UInt8} {b : UInt8} :
    nextByte s = .ok (b, r) ↔ ∃ gap, Blank gap ∧ isBlank b = false ∧ s = gap ++ b :: r := by
  constructor
  · intro h
    obtain ⟨gap, rest, rfl, blank, token⟩ := Text.exists_run isBlank s
    rw [nextByte_append blank] at h
    cases rest with
    | nil => cases h
    | cons c rest =>
      rw [nextByte_cons (token c rfl)] at h
      obtain ⟨rfl, rfl⟩ := Prod.mk.inj (Except.ok.inj h)
      exact ⟨gap, blank, token c rfl, rfl⟩
  · rintro ⟨gap, blank, token, rfl⟩
    exact nextByte_mark token blank r

theorem word_eq_ok {w s r : List UInt8} : word w s = .ok r ↔ s = w ++ r := by
  constructor
  · intro h
    induction w generalizing s with
    | nil => exact Except.ok.inj h
    | cons b w ih =>
      cases s with
      | nil => cases h
      | cons c s =>
        rw [word] at h
        split at h
        · next same => rw [same, ih h, List.cons_append]
        · cases h
  · rintro rfl
    exact Codec.word_append w r

namespace Literal

theorem digits_eq_ok {s found r : List UInt8} (h : digits s = .ok (found, r)) :
    s = found ++ r ∧ Digits found ∧ ∀ b ∈ r.head?, isDigit b = false := by
  obtain ⟨run, rest, rfl, all, stop⟩ := Text.exists_run isDigit s
  obtain ⟨front, back⟩ := Text.takeWhile_append_stop all stop
  rw [digits, front, back] at h
  split at h
  · cases h
  · next some =>
    obtain ⟨rfl, rfl⟩ := Prod.mk.inj (Except.ok.inj h)
    exact ⟨rfl, ⟨mt List.isEmpty_iff.mpr some, all⟩, stop⟩

end Literal

/-! ### Arrays -/

namespace Codec

def openElement (p : UInt8 × List UInt8) : Except Failure (Option (List UInt8)) :=
  if p.1 = ascii ']' then .error .illFormed else .ok (some (p.1 :: p.2))

theorem nextElement_read {s rest : List UInt8} {b : UInt8} (mark : nextByte s = .ok (b, rest))
    (first : Bool) :
    nextElement first s =
      if b = ascii ']' then .ok none
      else if first then .ok (some (b :: rest))
      else if b = ascii ',' then nextByte rest >>= openElement
      else .error .illFormed := by
  rw [nextElement, mark, ok_bind, ← ite_not (b = ascii ',')]
  dsimp only
  split
  · rfl
  cases first with
  | true => rfl
  | false =>
    simp only [Bool.false_eq_true, if_false]
    split
    · rfl
    refine congrArg _ (funext fun p => ?_)
    rw [openElement]
    split <;> rfl

theorem openElement_ne_none {p : UInt8 × List UInt8} : openElement p ≠ .ok none := by
  intro h
  rw [openElement] at h
  split at h <;> cases h

theorem openElement_eq_some {b : UInt8} {rest u : List UInt8} :
    openElement (b, rest) = .ok (some u) ↔ b ≠ ascii ']' ∧ u = b :: rest := by
  rw [openElement]
  dsimp only
  split
  · next close => exact ⟨nofun, fun h => (h.1 close).elim⟩
  · next noClose => simp [noClose, eq_comm]

theorem nextElement_eq_none {first : Bool} {s : List UInt8} :
    nextElement first s = .ok none ↔ ∃ gap r, Blank gap ∧ s = gap ++ ascii ']' :: r := by
  constructor
  · intro h
    obtain ⟨⟨b, rest⟩, mark, _⟩ := bind_eq_ok.mp h
    rw [nextElement_read mark] at h
    obtain ⟨gap, blank, _, rfl⟩ := nextByte_eq_ok.mp mark
    split at h
    · next close => exact ⟨gap, rest, blank, close ▸ rfl⟩
    split at h
    · cases h
    split at h
    · obtain ⟨p, _, opened⟩ := bind_eq_ok.mp h
      exact (openElement_ne_none opened).elim
    · cases h
  · rintro ⟨gap, r, blank, rfl⟩
    rw [nextElement_read (nextByte_mark (by decide) blank r), if_pos rfl]

theorem nextElement_eq_some {first : Bool} {s u : List UInt8} :
    nextElement first s = .ok (some u) ↔ ∃ l gap b t, Lead first l ∧ Blank gap ∧
      isBlank b = false ∧ b ≠ ascii ']' ∧ s = l ++ (gap ++ u) ∧ u = b :: t := by
  constructor
  · intro h
    obtain ⟨⟨b, rest⟩, mark, _⟩ := bind_eq_ok.mp h
    rw [nextElement_read mark] at h
    obtain ⟨gap, blank, token, rfl⟩ := nextByte_eq_ok.mp mark
    split at h
    · cases h
    next noClose =>
    cases first with
    | true =>
      obtain rfl := Option.some.inj (Except.ok.inj h)
      exact ⟨[], gap, b, rest, .none, blank, token, noClose, rfl, rfl⟩
    | false =>
      rw [if_neg Bool.false_ne_true] at h
      split at h
      · next comma =>
        obtain ⟨⟨d, after⟩, mark, opened⟩ := bind_eq_ok.mp h
        obtain ⟨noClose, rfl⟩ := openElement_eq_some.mp opened
        obtain ⟨gap', blank', token', rfl⟩ := nextByte_eq_ok.mp mark
        refine ⟨_, gap', d, after, .comma blank, blank', token', noClose, ?_, rfl⟩
        rw [comma, List.append_assoc, List.singleton_append]
      · cases h
  · rintro ⟨l, gap, b, t, lead, blank, token, noClose, rfl, rfl⟩
    exact Remaining.nextElement_lead lead blank token noClose t

theorem closeArray_eq_ok {s r : List UInt8} :
    closeArray s = .ok r ↔ ∃ gap, Blank gap ∧ s = gap ++ ascii ']' :: r := by
  constructor
  · intro h
    obtain ⟨⟨b, rest⟩, mark, read⟩ := bind_eq_ok.mp h
    obtain ⟨gap, blank, _, rfl⟩ := nextByte_eq_ok.mp mark
    dsimp only at read
    split at read
    · next close =>
      obtain rfl := Except.ok.inj read
      exact ⟨gap, blank, close ▸ rfl⟩
    · cases read
  · rintro ⟨gap, blank, rfl⟩
    rw [closeArray, nextByte_mark (by decide) blank]
    rfl

end Codec

/-! ### Objects -/

namespace Shape

def openKey (p : UInt8 × List UInt8) : Except Failure (Option String × List UInt8) :=
  if p.1 = ascii '"' then readQuoted p.2 >>= fun p => .ok (some p.1, p.2) else .error .illFormed

theorem nextKey_read {s rest : List UInt8} {b : UInt8} (mark : nextByte s = .ok (b, rest))
    (first : Bool) :
    nextKey first s =
      if b = ascii '\x7d' then .ok (none, rest)
      else if first then openKey (b, rest)
      else if b = ascii ',' then nextByte rest >>= openKey
      else .error .illFormed := by
  have opens (p : UInt8 × List UInt8) : openKey p = if p.1 ≠ ascii '"' then .error .illFormed else
      readQuoted p.2 >>= fun p => .ok (some p.1, p.2) := by
    rw [openKey, ite_not]
  rw [nextKey, mark, ok_bind]
  dsimp only
  split
  · rfl
  cases first with
  | true =>
    rw [opens]
    rfl
  | false =>
    simp only [Bool.false_eq_true, if_false, funext opens]
    split <;> rfl

theorem openKey_ne_none {p : UInt8 × List UInt8} {r : List UInt8} : openKey p ≠ .ok (none, r) := by
  intro h
  rw [openKey] at h
  split at h
  · obtain ⟨⟨key, rest⟩, _, same⟩ := bind_eq_ok.mp h
    cases same
  · cases h

theorem openKey_eq_some {b : UInt8} {rest r : List UInt8} {key : String} :
    openKey (b, rest) = .ok (some key, r) ↔ b = ascii '"' ∧ readQuoted rest = .ok (key, r) := by
  rw [openKey]
  dsimp only
  split
  · next quote =>
    simp only [bind_eq_ok, Prod.exists, quote, true_and]
    constructor
    · rintro ⟨_, _, read, same⟩
      cases same
      exact read
    · exact fun read => ⟨_, _, read, rfl⟩
  · next other => exact ⟨nofun, fun h => (other h.1).elim⟩

theorem nextKey_eq_none {first : Bool} {s r : List UInt8} :
    nextKey first s = .ok (none, r) ↔ ∃ gap, Blank gap ∧ s = gap ++ ascii '\x7d' :: r := by
  constructor
  · intro h
    obtain ⟨⟨b, rest⟩, mark, _⟩ := bind_eq_ok.mp h
    rw [nextKey_read mark] at h
    obtain ⟨gap, blank, _, rfl⟩ := nextByte_eq_ok.mp mark
    split at h
    · next close =>
      obtain ⟨_, rfl⟩ := Prod.mk.inj (Except.ok.inj h)
      exact ⟨gap, blank, close ▸ rfl⟩
    split at h
    · exact (openKey_ne_none h).elim
    split at h
    · obtain ⟨p, _, h⟩ := bind_eq_ok.mp h
      exact (openKey_ne_none h).elim
    · cases h
  · rintro ⟨gap, blank, rfl⟩
    rw [nextKey_read (nextByte_mark (by decide) blank r), if_pos rfl]

theorem nextKey_eq_some {first : Bool} {s r : List UInt8} {key : String} :
    nextKey first s = .ok (some key, r) ↔ ∃ l gap t, Lead first l ∧ Blank gap ∧
      s = l ++ (gap ++ ascii '"' :: t) ∧ readQuoted t = .ok (key, r) := by
  constructor
  · intro h
    obtain ⟨⟨b, rest⟩, mark, _⟩ := bind_eq_ok.mp h
    rw [nextKey_read mark] at h
    obtain ⟨gap, blank, _, rfl⟩ := nextByte_eq_ok.mp mark
    split at h
    · cases h
    cases first with
    | true =>
      obtain ⟨rfl, read⟩ := openKey_eq_some.mp h
      exact ⟨[], gap, rest, .none, blank, rfl, read⟩
    | false =>
      rw [if_neg Bool.false_ne_true] at h
      split at h
      · next comma =>
        obtain ⟨⟨d, after⟩, mark, opened⟩ := bind_eq_ok.mp h
        obtain ⟨rfl, read⟩ := openKey_eq_some.mp opened
        obtain ⟨gap', blank', _, rfl⟩ := nextByte_eq_ok.mp mark
        refine ⟨_, gap', after, .comma blank, blank', ?_, read⟩
        rw [comma, List.append_assoc, List.singleton_append]
      · cases h
  · rintro ⟨l, gap, t, lead, blank, rfl, read⟩
    rw [Remaining.nextKey_lead lead blank, read]
    rfl

theorem afterColon_eq_ok {s r : List UInt8} :
    afterColon s = .ok r ↔ ∃ gap, Blank gap ∧ s = gap ++ ascii ':' :: r := by
  constructor
  · intro h
    obtain ⟨⟨b, rest⟩, mark, read⟩ := bind_eq_ok.mp h
    obtain ⟨gap, blank, _, rfl⟩ := nextByte_eq_ok.mp mark
    dsimp only at read
    split at read
    · next colon =>
      obtain rfl := Except.ok.inj read
      exact ⟨gap, blank, colon ▸ rfl⟩
    · cases read
  · rintro ⟨gap, blank, rfl⟩
    rw [afterColon, nextByte_mark (by decide) blank]
    rfl

end Shape

/-! ### Documents -/

theorem skipBlanks_eq_nil {s : List UInt8} : skipBlanks s = [] ↔ Blank s :=
  List.dropWhile_eq_nil_iff

theorem Codec.decode_eq_ok {α : Type} {c : Codec α} {document : List UInt8} {a : α} :
    c.decode document = .ok a ↔ ∃ rest, c.read document = .ok (a, rest) ∧ Blank rest := by
  rw [decode]
  simp only [bind_eq_ok, Prod.exists, ← skipBlanks_eq_nil, ← List.isEmpty_iff]
  constructor
  · rintro ⟨_, rest, read, h⟩
    split at h
    · next empty =>
      obtain rfl := Except.ok.inj h
      exact ⟨rest, read, empty⟩
    · cases h
  · rintro ⟨rest, read, empty⟩
    refine ⟨a, rest, read, ?_⟩
    rw [if_pos empty]
    rfl

end OrderLookup.Json
