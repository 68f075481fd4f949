import OrderLookup.Order.Id
import OrderLookup.Proofs.Text.Trim

/-!
# Order ids as texts

The text of an id is read back as the same id (`parse_text`), and an id both starts and ends with a
character that is no white space (`exists_ends`). What becomes of any text is decided by what is left
of it without the white space at its ends (`parse_trimmed`).
-/

namespace OrderLookup.OrderId

open OrderLookup.Text

theorem parse_ok {raw : String} {id : OrderId} (h : parse raw = .ok id) :
    id.chars = trim raw.toList := by
  unfold parse at h
  dsimp only at h
  split at h
  · cases h
  · split at h
    · obtain rfl := Except.ok.inj h
      rfl
    · cases h

theorem isEmpty_chars (id : OrderId) : id.chars.isEmpty = false := by
  have length := id.length_chars
  cases chars : id.chars with
  | nil => simp [chars] at length
  | cons c rest => rfl

theorem isEmpty_text (id : OrderId) : id.text.isEmpty = false := by
  have filled := List.isEmpty_eq_false_iff.mp id.isEmpty_chars
  rw [text, String.isEmpty_eq_false_iff, ne_eq, String.ofList_eq_empty_iff]
  exact filled

theorem parse_text (id : OrderId) : parse id.text = .ok id := by
  simp only [parse, text, String.toList_ofList, id.trim_chars, id.isEmpty_chars, id.length_chars,
    dif_pos]
  rfl

theorem trimStart_chars (id : OrderId) : trimStart id.chars = id.chars := by
  have front := trimStart_trim id.chars
  rwa [id.trim_chars] at front

theorem trimEnd_chars (id : OrderId) : trimEnd id.chars = id.chars := by
  have whole := id.trim_chars
  rwa [trim, id.trimStart_chars] at whole

theorem exists_ends (id : OrderId) :
    ∃ first middle last, id.chars = first :: (middle ++ [last]) ∧ isBlank first = false ∧
      isBlank last = false := by
  have length := id.length_chars
  have front := id.trimStart_chars
  have back := congrArg List.reverse id.trimEnd_chars
  rw [trimEnd, List.reverse_reverse] at back
  cases chars : id.chars with
  | nil => simp [chars] at length
  | cons first rest =>
    rcases List.eq_nil_or_concat rest with rfl | ⟨middle, last, rfl⟩
    · simp [chars] at length
    · refine ⟨first, middle, last, by simp, ?_, ?_⟩
      · exact head?_trimStart (s := id.chars) (by rw [front, chars]; rfl)
      · exact head?_trimStart (s := id.chars.reverse) (by rw [trimStart, back, chars]; simp)

/-! ### What becomes of a text -/

variable {raw : String}

theorem parse_congr {raw' : String} (h : trim raw.toList = trim raw'.toList) :
    parse raw = parse raw' := by
  simp only [parse, h]

theorem parse_eq_empty_iff : parse raw = .error .empty ↔ trim raw.toList = [] := by
  unfold parse
  dsimp only
  split
  · next none => exact iff_of_true rfl (List.isEmpty_iff.mp none)
  · next some =>
    have filled : ¬trim raw.toList = [] := mt List.isEmpty_iff.mpr some
    split <;> exact iff_of_false nofun filled

theorem parse_eq_wrongLength_iff {n : Nat} :
    parse raw = .error (.wrongLength n) ↔ n = (trim raw.toList).length ∧ n ≠ 0 ∧ n ≠ 20 := by
  unfold parse
  dsimp only
  split
  · next none =>
    have zero : (trim raw.toList).length = 0 := List.isEmpty_iff_length_eq_zero.mp none
    exact iff_of_false nofun fun ⟨same, filled, _⟩ => filled (same.trans zero)
  · next some =>
    have positive : (trim raw.toList).length ≠ 0 := mt List.isEmpty_iff_length_eq_zero.mpr some
    split
    · next twenty => exact iff_of_false nofun fun ⟨same, _, other⟩ => other (same.trans twenty)
    · next other =>
      constructor
      · rintro ⟨⟩
        exact ⟨rfl, positive, other⟩
      · rintro ⟨rfl, _⟩
        rfl

theorem parse_eq_ok_iff {id : OrderId} : parse raw = .ok id ↔ id.chars = trim raw.toList := by
  constructor
  · exact parse_ok
  · intro same
    rw [← id.parse_text]
    apply parse_congr
    rw [text, String.toList_ofList, id.trim_chars, same]

theorem exists_text_iff {text : String} :
    (∃ id, parse raw = .ok id ∧ id.text = text) ↔
      (trim raw.toList).length = 20 ∧ text.toList = trim raw.toList := by
  simp only [parse_eq_ok_iff]
  constructor
  · rintro ⟨id, chars, rfl⟩
    rw [← chars, OrderId.text, String.toList_ofList]
    exact ⟨id.length_chars, rfl⟩
  · rintro ⟨length, same⟩
    refine ⟨⟨trim raw.toList, length, trim_trim _⟩, rfl, ?_⟩
    exact (congrArg String.ofList same.symm).trans String.ofList_toList

theorem parse_surrounded {front back : String} (before : Blanks front.toList)
    (after : Blanks back.toList) : parse (front ++ raw ++ back) = parse raw := by
  apply parse_congr
  rw [String.toList_append, String.toList_append, List.append_assoc, trim_append before after]

/-- The white space at the ends of a text does not matter, however much of it there is. Of what is
left, nothing is no id, another number of characters than twenty is reported, and twenty characters
are the id. An id stays what it is when it is read again. -/
theorem parse_trimmed (raw : String) :
    ∃ t, (∀ u, Trims raw.toList u ↔ u = t) ∧
      (parse raw = .error .empty ↔ t = []) ∧
      (∀ n, parse raw = .error (.wrongLength n) ↔ n = t.length ∧ n ≠ 0 ∧ n ≠ 20) ∧
      (∀ text : String, (∃ id, parse raw = .ok id ∧ id.text = text) ↔
        t.length = 20 ∧ text.toList = t) ∧
      (∀ front back : String, Blanks front.toList → Blanks back.toList →
        parse (front ++ raw ++ back) = parse raw) ∧
      ∀ id, parse raw = .ok id → parse id.text = .ok id ∧ id.text.length = 20 ∧
        ∃ first middle last, id.text.toList = first :: (middle ++ [last]) ∧
          isBlank first = false ∧ isBlank last = false := by
  refine ⟨trim raw.toList, fun u => trims_iff, parse_eq_empty_iff, fun n => parse_eq_wrongLength_iff,
    fun text => exists_text_iff, fun front back => parse_surrounded, fun id _ => ?_⟩
  refine ⟨id.parse_text, ?_, ?_⟩
  · rw [← String.length_toList, text, String.toList_ofList, id.length_chars]
  · rw [text, String.toList_ofList]
    exact id.exists_ends

/-- White space of many kinds at the ends goes, white space inside stays and counts. -/
theorem parse_trimmed_inside :
    let raw := "\u3000\tзаказ 1\tзаказ 2 ещё!\n"
    let text := "заказ 1\tзаказ 2 ещё!"
    Trims raw.toList text.toList ∧ Blanks "\u00a0 ".toList ∧ Blanks "\u2003".toList ∧
      parse ("\u00a0 " ++ raw ++ "\u2003") = parse raw ∧
      ∃ id, parse raw = .ok id ∧ id.text = text ∧ parse id.text = .ok id := by
  intro raw text
  obtain ⟨t, trims, _, _, accepted, surrounded, kept⟩ := parse_trimmed raw
  have left : text.toList = t := (trims _).mp (trims_iff.mpr (by decide +kernel))
  have length : t.length = 20 := left ▸ (by decide +kernel)
  have before : Blanks "\u00a0 ".toList := by decide +kernel
  have after : Blanks "\u2003".toList := by decide +kernel
  obtain ⟨id, parsed, same⟩ := (accepted text).mpr ⟨length, left⟩
  exact ⟨(trims _).mpr left, before, after, surrounded _ _ before after, id, parsed, same,
    (kept id parsed).1⟩

end OrderLookup.OrderId
