import OrderLookup.Proofs.Text.Utf8
import OrderLookup.Text.Percent

/-!
# Percent encoding round trip

`decode_encode` reads an encoded text back as its bytes, for every set of reserved characters that
holds the percent sign. `not_mem_encode` keeps reserved characters out of the encoded text.
-/

namespace OrderLookup.Text.Percent

def isEscape (c : Char) : Bool :=
  c == '%' || ('0' ≤ c && c ≤ '9') || ('A' ≤ c && c ≤ 'F')

theorem hexValue?_upperHexDigit {n : Nat} (h : n < 16) : hexValue? (upperHexDigit n) = some n := by
  have all : ∀ n < 16, hexValue? (upperHexDigit n) = some n := by decide
  exact all n h

theorem isEscape_upperHexDigit {n : Nat} (h : n < 16) : isEscape (upperHexDigit n) = true := by
  have all : ∀ n < 16, isEscape (upperHexDigit n) = true := by decide
  exact all n h

theorem byte?_upperHexDigit (b : UInt8) :
    byte? (upperHexDigit (b.toNat / 16)) (upperHexDigit (b.toNat % 16)) = some b := by
  have small := b.toNat_lt
  rw [byte?, hexValue?_upperHexDigit (by omega), hexValue?_upperHexDigit (by omega)]
  have whole : b.toNat / 16 * 16 + b.toNat % 16 = b.toNat := by omega
  change some (b.toNat / 16 * 16 + b.toNat % 16).toUInt8 = some b
  rw [whole]
  simp

/-! ### Decoding what was encoded -/

theorem decode_cons_of_ne {c : Char} (h : c ≠ '%') (rest : List Char) :
    decode (c :: rest) = Utf8.encodeChar c ++ decode rest := by
  rw [decode]
  intro high low later same _
  exact h same

theorem decode_encodeByte_append (b : UInt8) (rest : List Char) :
    decode (encodeByte b ++ rest) = b :: decode rest := by
  simp only [encodeByte, List.cons_append, List.nil_append, decode, byte?_upperHexDigit]

theorem decode_flatMap_encodeByte_append (bytes : List UInt8) (rest : List Char) :
    decode (bytes.flatMap encodeByte ++ rest) = bytes ++ decode rest := by
  induction bytes with
  | nil => rfl
  | cons b bytes ih =>
    rw [List.flatMap_cons, List.append_assoc, decode_encodeByte_append, ih, List.cons_append]

theorem decode_encodeChar_append {reserved : Char → Bool} (percent : reserved '%' = true) (c : Char)
    (rest : List Char) :
    decode (encodeChar reserved c ++ rest) = Utf8.encodeChar c ++ decode rest := by
  unfold encodeChar
  split
  · next plain =>
    have free : c ≠ '%' := by
      rintro rfl
      simp [percent] at plain
    rw [List.singleton_append, decode_cons_of_ne free]
  · exact decode_flatMap_encodeByte_append _ rest

theorem decode_encode {reserved : Char → Bool} (percent : reserved '%' = true) (s : List Char) :
    decode (encode reserved s) = Utf8.encode s := by
  induction s with
  | nil => rfl
  | cons c s ih =>
    rw [encode, List.flatMap_cons, decode_encodeChar_append percent]
    exact congrArg (Utf8.encodeChar c ++ ·) ih

/-! ### Characters of an encoded text -/

theorem isEscape_of_mem_encodeByte {b : UInt8} {c : Char} (h : c ∈ encodeByte b) :
    isEscape c = true := by
  have small := b.toNat_lt
  simp only [encodeByte, List.mem_cons, List.not_mem_nil, or_false] at h
  rcases h with rfl | rfl | rfl
  · rfl
  · exact isEscape_upperHexDigit (by omega)
  · exact isEscape_upperHexDigit (by omega)

theorem isEscape_of_mem_flatMap {bytes : List UInt8} {c : Char} (h : c ∈ bytes.flatMap encodeByte) :
    isEscape c = true := by
  obtain ⟨b, _, member⟩ := List.mem_flatMap.mp h
  exact isEscape_of_mem_encodeByte member

theorem mem_encode {reserved : Char → Bool} {s : List Char} {c : Char} (h : c ∈ encode reserved s) :
    reserved c = false ∨ isEscape c = true := by
  obtain ⟨d, _, member⟩ := List.mem_flatMap.mp h
  unfold encodeChar at member
  split at member
  · next plain =>
    obtain rfl := List.mem_singleton.mp member
    simp only [Bool.and_eq_true, Bool.not_eq_true'] at plain
    exact Or.inl plain.2
  · exact Or.inr (isEscape_of_mem_flatMap member)

theorem not_mem_encode {reserved : Char → Bool} {c : Char} (kept : reserved c = true)
    (other : isEscape c = false) (s : List Char) : c ∉ encode reserved s := by
  intro h
  rcases mem_encode h with free | escape
  · rw [kept] at free; cases free
  · rw [other] at escape; cases escape

end OrderLookup.Text.Percent
