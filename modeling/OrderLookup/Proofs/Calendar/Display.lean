import OrderLookup.Calendar.Display
import OrderLookup.Proofs.Calendar.Moment
import OrderLookup.Proofs.Text.Lines

/-!
# What displayed dates are made of

A displayed date has no line break, whatever the text it was read from. It tells all fields of a
date and time, so that no two have the same text (`text_injective`).
-/

namespace OrderLookup.Calendar

open OrderLookup.Text

theorem newline_not_mem_padded (width n : Nat) : '\n' ∉ Decimal.padded width n := fun mem =>
  absurd (Decimal.isDigit_of_mem_padded mem) (by decide)

theorem newline_not_mem_yearText (year : Int) : '\n' ∉ yearText year := by
  unfold yearText
  split
  · exact newline_not_mem_padded 4 _
  · split <;> simp [newline_not_mem_padded]

theorem oneLine_display (zone : Zone) (m : Moment) : OneLine (m.display zone) := by
  simp [OneLine, Moment.display, Reading.display, Date.display, newline_not_mem_padded,
    newline_not_mem_yearText]

theorem oneLine_formatDate (zone : Zone) (text : String) : OneLine (formatDate zone text) := by
  unfold formatDate
  split
  · decide
  · split
    · exact oneLine_display zone _
    · decide

theorem oneLine_formatEpoch (zone : Zone) (seconds : Option Int) :
    OneLine (formatEpoch zone seconds) := by
  unfold formatEpoch
  split
  · decide
  · split
    · decide
    · split
      · exact oneLine_display zone _
      · decide

/-! ### Fields as displayed -/

namespace Fields

/-- `DD.MM.YYYY, HH:MM:SS`. -/
def text (f : Fields) : String :=
  String.ofList (Decimal.padded 2 f.date.day ++ '.' :: Decimal.padded 2 f.date.month ++ '.' ::
    yearText f.date.year ++ ',' :: ' ' :: Decimal.padded 2 f.hour ++ ':' ::
    Decimal.padded 2 f.minute ++ ':' :: Decimal.padded 2 f.second)

def IsShort (f : Fields) : Prop :=
  f.date.day < 100 ∧ f.date.month < 100 ∧ f.hour < 100 ∧ f.minute < 100 ∧ f.second < 100

theorem IsPlain.isShort {f : Fields} (plain : f.IsPlain) : f.IsShort := by
  obtain ⟨⟨one, month, _, day⟩, hour, minute, second⟩ := plain
  have fits := (Date.daysInMonth_bounds f.date.year one month).2
  unfold IsShort
  omega

end Fields

theorem text_fields (r : Reading) : String.ofList r.display = r.fields.text := by
  simp [Reading.display, Date.display, Fields.text, Reading.fields]

/-- A year has at least four digits, and a sign just outside 0..9999. -/
theorem yearText_digits (year : Int) :
    ∃ digits : List Char, 4 ≤ digits.length ∧ (∀ c ∈ digits, Decimal.isDigit c = true) ∧
      Decimal.value digits = year.natAbs ∧
      yearText year = if 0 ≤ year ∧ year ≤ 9999 then digits
        else (if year < 0 then '-' else '+') :: digits := by
  refine ⟨Decimal.padded 4 year.natAbs, Decimal.le_length_padded 4 _,
    fun _ => Decimal.isDigit_of_mem_padded, Decimal.value_padded 4 _, ?_⟩
  unfold yearText
  split
  · next plain =>
    have numeral : year.toNat = year.natAbs := by omega
    rw [numeral]
  · rfl

theorem yearText_injective {year year' : Int} (same : yearText year = yearText year') :
    year = year' := by
  have sign (y : Int) : Decimal.isDigit (if y < 0 then '-' else '+') = false := by
    split <;> rfl
  unfold yearText at same
  by_cases plain : 0 ≤ year ∧ year ≤ 9999
  · by_cases plain' : 0 ≤ year' ∧ year' ≤ 9999
    · rw [if_pos plain, if_pos plain'] at same
      have digits := Decimal.padded_injective same
      omega
    · rw [if_pos plain, if_neg plain'] at same
      exact (Decimal.padded_ne_cons (sign year') same).elim
  · by_cases plain' : 0 ≤ year' ∧ year' ≤ 9999
    · rw [if_neg plain, if_pos plain'] at same
      exact (Decimal.padded_ne_cons (sign year) same.symm).elim
    · rw [if_neg plain, if_neg plain'] at same
      obtain ⟨signs, numerals⟩ := List.cons.inj same
      have digits := Decimal.padded_injective numerals
      by_cases negative : year < 0
      · by_cases negative' : year' < 0
        · omega
        · simp [negative, negative'] at signs
      · by_cases negative' : year' < 0
        · simp [negative, negative'] at signs
        · omega

theorem comma_not_mem_yearText (year : Int) : ',' ∉ yearText year := by
  have digits (width n : Nat) : ',' ∉ Decimal.padded width n := fun member =>
    absurd (Decimal.isDigit_of_mem_padded member) (by decide)
  unfold yearText
  split
  · exact digits 4 _
  · split <;> simp [digits]

/-- The text tells every field. -/
theorem text_injective {f f' : Fields} (short : f.IsShort) (short' : f'.IsShort)
    (same : f.text = f'.text) : f = f' := by
  obtain ⟨⟨year, month, day⟩, hour, minute, second⟩ := f
  obtain ⟨⟨year', month', day'⟩, hour', minute', second'⟩ := f'
  obtain ⟨days, months, hours, minutes, seconds⟩ := short
  obtain ⟨days', months', hours', minutes', seconds'⟩ := short'
  have chars := String.ofList_inj.mp same
  simp only [List.append_assoc, List.cons_append] at chars
  obtain ⟨rfl, afterDay⟩ := Decimal.padded_append_inj days days' chars
  obtain ⟨rfl, afterMonth⟩ :=
    Decimal.padded_append_inj months months' (List.cons.inj afterDay).2
  have cuts := congrArg (cut ',') (List.cons.inj afterMonth).2
  rw [cut_append_cons (comma_not_mem_yearText year),
    cut_append_cons (comma_not_mem_yearText year')] at cuts
  obtain ⟨years, time⟩ := Prod.mk.inj cuts
  obtain rfl := yearText_injective years
  obtain ⟨rfl, afterHour⟩ :=
    Decimal.padded_append_inj hours hours' (List.cons.inj (Option.some.inj time)).2
  obtain ⟨rfl, afterMinute⟩ :=
    Decimal.padded_append_inj minutes minutes' (List.cons.inj afterHour).2
  obtain rfl := Decimal.padded_injective (List.cons.inj afterMinute).2
  rfl

theorem exists_text_eq_cons (f : Fields) :
    ∃ c rest, f.text.toList = c :: rest ∧ Decimal.isDigit c = true := by
  obtain ⟨c, digits, numeral, digit⟩ := Decimal.exists_padded_eq_cons 1 f.date.day
  unfold Fields.text
  rw [String.toList_ofList, numeral]
  exact ⟨c, _, rfl, digit⟩

theorem text_ne_invalidDate (f : Fields) : f.text ≠ invalidDate := by
  obtain ⟨c, rest, chars, digit⟩ := exists_text_eq_cons f
  intro same
  rw [same] at chars
  obtain ⟨rfl, -⟩ := List.cons.inj chars
  exact absurd digit (by decide)

theorem text_ne_empty (f : Fields) : f.text ≠ "" := by
  obtain ⟨c, rest, chars, digit⟩ := exists_text_eq_cons f
  intro same
  rw [same] at chars
  cases chars

end OrderLookup.Calendar
