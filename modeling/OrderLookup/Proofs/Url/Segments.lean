import Mathlib.Data.List.Basic
import OrderLookup.Proofs.Url.Parse
import OrderLookup.Proofs.Url.Path

/-!
# Paths as texts

No segment of a web address holds a slash (`slashFree_parse_web`), so that two paths with one text
are the same (`chars_injective`). `encodeSegment_web` says byte by byte how a segment is written.
-/

namespace OrderLookup

namespace Text

theorem splitAt_free {isSeparator : Char → Bool} {s part : List Char}
    (h : part ∈ splitAt isSeparator s) : ∀ c ∈ part, isSeparator c = false := by
  induction s generalizing part with
  | nil =>
    obtain rfl := List.mem_singleton.mp h
    simp
  | cons c s ih =>
    obtain ⟨first, later, parts⟩ := exists_splitAt_eq_cons isSeparator s
    cases separator : isSeparator c with
    | true =>
      simp only [splitAt, separator, if_true, List.mem_cons] at h
      rcases h with rfl | h
      · simp
      · exact ih h
    | false =>
      simp only [splitAt, separator, Bool.false_eq_true, if_false, parts, List.mem_cons] at h
      rw [parts] at ih
      rcases h with rfl | h
      · exact List.forall_mem_cons.mpr ⟨separator, ih List.mem_cons_self⟩
      · exact ih (List.mem_cons_of_mem first h)

namespace Percent

def writeByte (reserved : UInt8 → Bool) (b : UInt8) : List Char :=
  if reserved b then encodeByte b else [Char.ofNat b.toNat]

theorem mem_of_mem_encode {reserved : Char → Bool} {s : List Char} {c : Char}
    (h : c ∈ encode reserved s) : c ∈ s ∨ isEscape c = true := by
  obtain ⟨d, listed, member⟩ := List.mem_flatMap.mp h
  unfold encodeChar at member
  split at member
  · obtain rfl := List.mem_singleton.mp member
    exact Or.inl listed
  · exact Or.inr (isEscape_of_mem_flatMap member)

theorem encodeChar_eq_flatMap {reserved : Char → Bool} {escaped : UInt8 → Bool}
    (same : ∀ b, escaped b = (decide (0x80 ≤ b) || reserved (Char.ofNat b.toNat))) (c : Char) :
    encodeChar reserved c = (Utf8.encodeChar c).flatMap (writeByte escaped) := by
  by_cases ascii : c.toNat < 0x80
  · have code : c.toNat.toUInt8.toNat = c.toNat := Utf8.toNat_toUInt8 (by omega)
    have low : ¬(0x80 : UInt8) ≤ c.toNat.toUInt8 := by
      rw [UInt8.le_iff_toNat_le, code]
      exact Nat.not_le.mpr ascii
    have own : escaped c.toNat.toUInt8 = reserved c := by
      rw [same, code, Char.ofNat_toNat, decide_eq_false low, Bool.false_or]
    have single : Utf8.encodeChar c = [c.toNat.toUInt8] := if_pos ascii
    rw [encodeChar, isAscii, decide_eq_true ascii, Bool.true_and, single, List.flatMap_singleton,
      List.flatMap_singleton, writeByte, own, code, Char.ofNat_toNat]
    cases reserved c <;> rfl
  · have high : ∀ b ∈ Utf8.encodeChar c, encodeByte b = writeByte escaped b := by
      intro b member
      have large := Utf8.le_of_mem_encodeChar (Nat.not_lt.mp ascii) member
      rw [writeByte, same, decide_eq_true large, Bool.true_or, if_pos rfl]
    rw [encodeChar, isAscii, decide_eq_false ascii, Bool.false_and, if_neg (by decide)]
    exact List.flatMap_congr high

theorem encode_eq_flatMap {reserved : Char → Bool} {escaped : UInt8 → Bool}
    (same : ∀ b, escaped b = (decide (0x80 ≤ b) || reserved (Char.ofNat b.toNat)))
    (s : List Char) : encode reserved s = (Utf8.encode s).flatMap (writeByte escaped) := by
  rw [encode, Utf8.encode, List.flatMap_assoc]
  exact List.flatMap_congr fun c _ => encodeChar_eq_flatMap same c

end Percent

end Text

open OrderLookup.Text

namespace Url

/-- The bytes that are percent-encoded in a segment of a web address: those of control characters,
those of characters beyond ASCII, and a few others. -/
def Reserved.segmentByte (b : UInt8) : Bool :=
  b < 0x20 || 0x7F ≤ b ||
    Char.ofNat b.toNat ∈ [' ', '"', '#', '%', '/', '<', '>', '?', '\\', '\x60', '{', '}']

theorem Reserved.segmentByte_eq (b : UInt8) :
    segmentByte b = (decide (0x80 ≤ b) || specialSegment (Char.ofNat b.toNat)) := by
  have all : ∀ n < 256, segmentByte n.toUInt8 =
      (decide (0x80 ≤ n.toUInt8) || specialSegment (Char.ofNat n.toUInt8.toNat)) := by
    decide +kernel
  have own := all b.toNat b.toNat_lt
  rwa [show b.toNat.toUInt8 = b by simp] at own

namespace Path

theorem encodeSegment_web (s : List Char) :
    encodeSegment .web s =
      (Utf8.encode (kept s)).flatMap (Percent.writeByte Reserved.segmentByte) :=
  Percent.encode_eq_flatMap Reserved.segmentByte_eq (kept s)

/-! ### Segments without slashes -/

def SlashFree (segments : List (List Char)) : Prop :=
  ∀ segment ∈ segments, '/' ∉ segment

variable {segments : List (List Char)}

theorem SlashFree.subset {part : List (List Char)} (free : SlashFree segments)
    (h : part ⊆ segments) : SlashFree part :=
  fun segment member => free segment (h member)

theorem SlashFree.append {later : List (List Char)} (free : SlashFree segments)
    (free' : SlashFree later) : SlashFree (segments ++ later) :=
  List.forall_mem_append.mpr ⟨free, free'⟩

theorem slashFree_singleton {segment : List Char} (h : '/' ∉ segment) : SlashFree [segment] :=
  List.forall_mem_singleton.mpr h

theorem shorten_subset (segments : List (List Char)) : shorten segments ⊆ segments := by
  rw [shorten]
  split
  · split
    · exact fun _ member => member
    · exact List.dropLast_subset segments
  · simp

theorem SlashFree.add_web (free : SlashFree segments) (last : Bool) {segment : List Char}
    (h : '/' ∉ segment) : SlashFree (add .web segments last segment) := by
  have close : SlashFree (if last then [[]] else []) := by
    intro part member
    split at member
    · obtain rfl := List.mem_singleton.mp member
      exact List.not_mem_nil
    · cases member
  rw [add]
  split
  · exact (free.subset (shorten_subset segments)).append close
  · split
    · exact free.append close
    · rw [normalize, if_neg (by simp)]
      exact free.append (slashFree_singleton h)

theorem SlashFree.addAll_web (free : SlashFree segments) {raw : List (List Char)}
    (h : ∀ segment ∈ raw, '/' ∉ segment) : SlashFree (addAll .web segments raw) := by
  induction raw generalizing segments with
  | nil => exact free
  | cons segment later ih =>
    rw [List.forall_mem_cons] at h
    cases later with
    | nil => exact free.add_web true h.1
    | cons next later => exact ih (free.add_web false h.1) h.2

theorem slashFree_parse_web (s : List Char) : SlashFree (parse .web s) := by
  rw [parse, collapse, if_neg (by simp), Path.segments]
  refine SlashFree.addAll_web (List.forall_mem_nil _) fun segment member => ?_
  obtain ⟨part, listed, rfl⟩ := List.mem_map.mp member
  intro slash
  rcases Percent.mem_of_mem_encode slash with kept | escape
  · cases splitAt_free listed '/' kept
  · cases escape

theorem slashFree_parseAfterAuthority_web (s : List Char) :
    SlashFree (parseAfterAuthority .web s) := by
  cases s with
  | nil => exact slashFree_singleton List.not_mem_nil
  | cons c s =>
    rw [parseAfterAuthority]
    split <;> exact slashFree_parse_web _

/-! ### The text of a path -/

theorem chars_cons (segment : List Char) (segments : List (List Char)) :
    (Path.rooted (segment :: segments)).chars =
      '/' :: (segment ++ (Path.rooted segments).chars) := by
  simp [chars]

theorem head?_chars {c : Char} (h : c ∈ (Path.rooted segments).chars.head?) : c = '/' := by
  cases segments with
  | nil => cases h
  | cons segment later => exact (Option.some.inj h).symm

theorem chars_injective {other : List (List Char)} (free : SlashFree segments)
    (free' : SlashFree other)
    (same : (Path.rooted segments).chars = (Path.rooted other).chars) : segments = other := by
  have split {segment : List Char} (h : '/' ∉ segment) (later : List (List Char)) :
      (segment ++ (Path.rooted later).chars).takeWhile (· != '/') = segment ∧
        (segment ++ (Path.rooted later).chars).dropWhile (· != '/') =
          (Path.rooted later).chars := by
    apply takeWhile_append_stop
    · rintro c member
      rw [bne_iff_ne]
      rintro rfl
      exact h member
    · intro c first
      obtain rfl := head?_chars first
      rfl
  induction segments generalizing other with
  | nil =>
    cases other with
    | nil => rfl
    | cons segment later => rw [chars_cons] at same; cases same
  | cons segment later ih =>
    cases other with
    | nil => rw [chars_cons] at same; cases same
    | cons segment' later' =>
      rw [SlashFree, List.forall_mem_cons] at free free'
      rw [chars_cons, chars_cons, List.cons_inj_right] at same
      have one := split free.1 later
      rw [same, (split free'.1 later').1, (split free'.1 later').2] at one
      rw [one.1, ih free.2 free'.2 one.2.symm]

end Path

end Url

theorem Config.parseBaseUrl_slashFree {raw : String} {base : Url}
    (accepted : parseBaseUrl raw = .ok base) :
    ∃ segments, base.path = .rooted segments ∧ Url.Path.SlashFree segments := by
  obtain ⟨parsed, web⟩ := parseBaseUrl_parsed accepted
  obtain ⟨s, path⟩ := Url.parse_web_path parsed web
  exact ⟨_, path, Url.Path.slashFree_parseAfterAuthority_web s⟩

end OrderLookup
