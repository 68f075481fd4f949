import OrderLookup.Proofs.Text.Percent
import OrderLookup.Proofs.Text.Split
import OrderLookup.Url.Path

/-!
# Segments pushed onto a path

An encoded segment counts as dots only if its text is dots (`isDoubleDot_encodeSegment`), so that
`push_web` pushes any other text as one more segment. The segment is read back as the text without
its tabs and line breaks (`decode_encodeSegment`).
-/

namespace OrderLookup.Url.Path

open OrderLookup.Text

/-! ### Dots -/

theorem toNat_toLower (c : Char) :
    c.toLower.toNat = if 65 ≤ c.toNat ∧ c.toNat ≤ 90 then c.toNat + 32 else c.toNat := by
  unfold Char.toLower
  split
  · next upper =>
    have range : 65 ≤ c.toNat ∧ c.toNat ≤ 90 := upper
    rw [if_pos range]
    change (c.val + 32).toNat = c.toNat + 32
    rw [UInt32.toNat_add]
    exact Nat.mod_eq_of_lt (by change c.toNat + 32 < _; omega)
  · next other =>
    have range : ¬(65 ≤ c.toNat ∧ c.toNat ≤ 90) := other
    rw [if_neg range]

/-- A character that is no small letter comes from itself alone. -/
theorem eq_of_toLower_eq {c d : Char} (h : c.toLower = d) (other : d.toNat < 97) : c = d := by
  have code := toNat_toLower c
  rw [h] at code
  have same : d.toNat = c.toNat := by
    split at code <;> omega
  rw [← Char.ofNat_toNat c, ← same, Char.ofNat_toNat]

theorem hexValue?_of_toLower {c : Char} (h : c.toLower = 'e') : Percent.hexValue? c = some 14 := by
  have code := toNat_toLower c
  rw [h, show 'e'.toNat = 101 from rfl] at code
  have letter : c.toNat = 'e'.toNat ∨ c.toNat = 'E'.toNat := by
    change c.toNat = 101 ∨ c.toNat = 69
    split at code <;> omega
  rcases letter with small | capital
  · rw [← Char.ofNat_toNat c, small]
    rfl
  · rw [← Char.ofNat_toNat c, capital]
    rfl

/-- A single dot is decoded as one, however it is written. -/
theorem decode_singleDot_append {s : List Char} (h : isSingleDot s = true) (rest : List Char) :
    Percent.decode (s ++ rest) = 0x2E :: Percent.decode rest := by
  have forms : s.map Char.toLower = ['.'] ∨ s.map Char.toLower = ['%', '2', 'e'] := by
    simpa [isSingleDot] using h
  rcases forms with plain | escaped
  · obtain ⟨c, rfl, lower⟩ := List.map_eq_singleton_iff.mp plain
    rw [eq_of_toLower_eq lower (by decide), List.singleton_append,
      Percent.decode_cons_of_ne (by decide)]
    rfl
  · obtain ⟨a, s, rfl, percent, later⟩ := List.map_eq_cons_iff.mp escaped
    obtain ⟨b, s, rfl, two, later⟩ := List.map_eq_cons_iff.mp later
    obtain ⟨c, rfl, letter⟩ := List.map_eq_singleton_iff.mp later
    have code : Percent.byte? '2' c = some 0x2E := by
      rw [Percent.byte?, hexValue?_of_toLower letter]
      rfl
    rw [eq_of_toLower_eq percent (by decide), eq_of_toLower_eq two (by decide)]
    simp only [List.cons_append, List.nil_append, Percent.decode, code]

theorem isSingleDot_of_map {s : List Char}
    (h : s.map Char.toLower = ['.'] ∨ s.map Char.toLower = ['%', '2', 'e']) :
    isSingleDot s = true := by
  simpa [isSingleDot] using h

theorem exists_dots_of_isDoubleDot {s : List Char} (h : isDoubleDot s = true) :
    ∃ first second, s = first ++ second ∧ isSingleDot first = true ∧ isSingleDot second = true := by
  have forms : s.map Char.toLower = ['.'] ++ ['.'] ∨ s.map Char.toLower = ['.'] ++ ['%', '2', 'e'] ∨
      s.map Char.toLower = ['%', '2', 'e'] ++ ['.'] ∨
      s.map Char.toLower = ['%', '2', 'e'] ++ ['%', '2', 'e'] := by
    simpa [isDoubleDot] using h
  rcases forms with h | h | h | h
  all_goals
    obtain ⟨first, second, rfl, one, two⟩ := List.map_eq_append_iff.mp h
    exact ⟨first, second, rfl, isSingleDot_of_map (by simp [one]),
      isSingleDot_of_map (by simp [two])⟩

theorem decode_doubleDot {s : List Char} (h : isDoubleDot s = true) :
    Percent.decode s = [0x2E, 0x2E] := by
  obtain ⟨first, second, rfl, one, two⟩ := exists_dots_of_isDoubleDot h
  have rest := decode_singleDot_append two []
  rw [List.append_nil] at rest
  rw [decode_singleDot_append one, rest]
  rfl

/-! ### Encoded segments -/

def kept (s : List Char) : List Char :=
  s.filter (!isDropped ·)

theorem kept_eq_self_iff {s : List Char} : kept s = s ↔ ∀ c ∈ s, isDropped c = false := by
  simp [kept, List.filter_eq_self]

theorem decode_encodeSegment (kind : Kind) (s : List Char) :
    Percent.decode (encodeSegment kind s) = Utf8.encode (kept s) := by
  apply Percent.decode_encode
  cases kind <;> rfl

theorem encodeSegment_injective (kind : Kind) {s t : List Char}
    (h : encodeSegment kind s = encodeSegment kind t) : kept s = kept t := by
  apply Utf8.encode_injective
  rw [← decode_encodeSegment kind, h, decode_encodeSegment]

theorem slash_not_mem_encodeSegment (kind : Kind) (s : List Char) : '/' ∉ encodeSegment kind s := by
  refine Percent.not_mem_encode ?_ rfl _
  cases kind <;> rfl

theorem isSingleDot_encodeSegment {kind : Kind} {s : List Char}
    (h : isSingleDot (encodeSegment kind s) = true) : kept s = ['.'] := by
  have bytes := decode_singleDot_append h []
  rw [List.append_nil, decode_encodeSegment] at bytes
  exact Utf8.encode_injective bytes

theorem isDoubleDot_encodeSegment {kind : Kind} {s : List Char}
    (h : isDoubleDot (encodeSegment kind s) = true) : kept s = ['.', '.'] := by
  have bytes := decode_doubleDot h
  rw [decode_encodeSegment] at bytes
  exact Utf8.encode_injective bytes

theorem encodeSegment_dots {s : List Char} (h : kept s = ['.', '.']) :
    encodeSegment .web s = ['.', '.'] := by
  change Percent.encode _ (kept s) = _
  rw [h]
  rfl

/-! ### Pushing onto the path of a web address -/

/-- The segments that a pushed one is put behind: the root is given up. -/
def below (segments : List (List Char)) : List (List Char) :=
  if segments = [[]] then [] else segments

theorem push_web_add {segments : List (List Char)} {s : List Char} (noDot : s ≠ ['.'])
    (noDots : s ≠ ['.', '.']) :
    push .web segments s = add .web (below segments) true (encodeSegment .web s) := by
  rw [push, if_neg (by simp [noDot, noDots]), collapse, if_neg (by simp)]
  rfl

theorem add_web {segments : List (List Char)} {segment : List Char}
    (noDot : isSingleDot segment = false) (noDots : isDoubleDot segment = false) :
    add .web segments true segment = segments ++ [segment] := by
  simp [add, noDot, noDots, normalize]

/-- A text that is not left with dots alone is pushed as a segment. -/
theorem push_web {segments : List (List Char)} {s : List Char} (noDot : kept s ≠ ['.'])
    (noDots : kept s ≠ ['.', '.']) :
    push .web segments s = below segments ++ [encodeSegment .web s] := by
  rw [push_web_add, add_web]
  · exact Bool.eq_false_iff.mpr fun dot => noDot (isSingleDot_encodeSegment dot)
  · exact Bool.eq_false_iff.mpr fun dots => noDots (isDoubleDot_encodeSegment dots)
  · rintro rfl
    exact noDot rfl
  · rintro rfl
    exact noDots rfl

theorem below_concat {last : List Char} (named : last ≠ []) (segments : List (List Char)) :
    below (segments ++ [last]) = segments ++ [last] := by
  apply if_neg
  intro root
  have same := (List.append_eq_cons_iff.mp root)
  simp [named] at same

/-- A text that is left with two dots takes the segment before it away. -/
theorem push_web_dots {last s : List Char} (dots : kept s = ['.', '.'])
    (longer : s ≠ ['.', '.']) (named : last ≠ []) (drive : isDriveLetter last = false)
    (segments : List (List Char)) : push .web (segments ++ [last]) s = segments ++ [[]] := by
  have noDot : s ≠ ['.'] := by
    rintro rfl
    cases dots
  rw [push_web_add noDot longer, below_concat named, encodeSegment_dots dots, add,
    if_pos (by decide), shorten, List.getLast?_concat]
  simp [drive]

end OrderLookup.Url.Path
