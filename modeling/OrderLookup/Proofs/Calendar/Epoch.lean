import OrderLookup.Proofs.Calendar.Display

/-!
# Seconds since 1970 as displayed

At a fixed offset a count of seconds is shown as the one date and time that lies as many seconds
after 1970, moved by the offset; what is out of the covered years is no date (`formatEpoch_fixed`).
-/

namespace OrderLookup.Calendar

open OrderLookup.Text

/-- The text tells the only date and time that lies `t` seconds after 1970, the year in four digits
or more and with its sign just outside 0..9999. -/
def TellsSecond (t : Int) (text : String) : Prop :=
  ∃ f : Fields, f.IsPlain ∧ f.seconds = t ∧
    (∀ f' : Fields, f'.IsPlain → f'.seconds = t → f' = f) ∧ text = f.text ∧
    ∃ digits : List Char, 4 ≤ digits.length ∧ (∀ c ∈ digits, Decimal.isDigit c = true) ∧
      Decimal.value digits = f.date.year.natAbs ∧
      yearText f.date.year = if 0 ≤ f.date.year ∧ f.date.year ≤ 9999 then digits
        else (if f.date.year < 0 then '-' else '+') :: digits

theorem tellsSecond_display (zone : Zone) (t : Int) :
    TellsSecond (t + zone.offsetAt t) ((Moment.mk t false).display zone) := by
  obtain ⟨f, plain, counted, only⟩ := Fields.existsUnique (t + zone.offsetAt t)
  have shown : (Reading.mk (t + zone.offsetAt t) false).fields = f :=
    only _ (Reading.isPlain_fields _) (Reading.seconds_fields _)
  refine ⟨f, plain, counted, only, ?_, yearText_digits f.date.year⟩
  rw [← shown]
  exact text_fields _

theorem TellsSecond.ne_invalidDate {t : Int} {text : String} (tells : TellsSecond t text) :
    text ≠ invalidDate := by
  obtain ⟨f, -, -, -, rfl, -⟩ := tells
  exact text_ne_invalidDate f

theorem TellsSecond.ne_empty {t : Int} {text : String} (tells : TellsSecond t text) :
    text ≠ "" := by
  obtain ⟨f, -, -, -, rfl, -⟩ := tells
  exact text_ne_empty f

theorem TellsSecond.injective {t t' : Int} {text : String} (tells : TellsSecond t text)
    (tells' : TellsSecond t' text) : t = t' := by
  obtain ⟨f, plain, rfl, -, rfl, -⟩ := tells
  obtain ⟨f', plain', rfl, -, same, -⟩ := tells'
  rw [text_injective plain.isShort plain'.isShort same]

theorem formatEpoch_of_inRange (zone : Zone) {s : Int} (nonzero : s ≠ 0)
    (covered : (Moment.mk s false).InRange) :
    TellsSecond (s + zone.offsetAt s) (formatEpoch zone (some s)) := by
  unfold formatEpoch
  dsimp only
  rw [if_neg nonzero, if_pos covered]
  exact tellsSecond_display zone s

theorem formatEpoch_of_not_inRange (zone : Zone) {s : Int} (nonzero : s ≠ 0)
    (outside : ¬(Moment.mk s false).InRange) : formatEpoch zone (some s) = invalidDate := by
  unfold formatEpoch
  dsimp only
  rw [if_neg nonzero, if_neg outside]

theorem formatEpoch_eq_invalidDate_iff (zone : Zone) {s : Int} (nonzero : s ≠ 0) :
    formatEpoch zone (some s) = invalidDate ↔ ¬(Moment.mk s false).InRange := by
  constructor
  · intro invalid covered
    exact (formatEpoch_of_inRange zone nonzero covered).ne_invalidDate invalid
  · exact formatEpoch_of_not_inRange zone nonzero

/-- Where the offset is fixed, no other count of seconds has the text of one that is a date. -/
theorem formatEpoch_fixed_injective (offset : Int) {s s' : Int} (nonzero : s ≠ 0)
    (covered : (Moment.mk s false).InRange)
    (same : formatEpoch (.fixed offset) (some s') = formatEpoch (.fixed offset) (some s)) :
    s' = s := by
  have tells := formatEpoch_of_inRange (.fixed offset) nonzero covered
  by_cases zero : s' = 0
  · subst zero
    exact (tells.ne_empty same.symm).elim
  · by_cases covered' : (Moment.mk s' false).InRange
    · have tells' := formatEpoch_of_inRange (.fixed offset) zero covered'
      rw [same] at tells'
      have moved : s' + offset = s + offset := tells'.injective tells
      omega
    · rw [formatEpoch_of_not_inRange _ zero covered'] at same
      exact (tells.ne_invalidDate same.symm).elim

theorem toInt_mul_of_inRange {s : Int64} (covered : (Moment.mk s.toInt false).InRange) :
    (s * 1000).toInt = s.toInt * 1000 := by
  obtain ⟨low, high⟩ := inRange_iff.mp covered
  have first : firstSecond.seconds = -8334601228800 := rfl
  have last : lastSecond.seconds = 8210266876799 := rfl
  have thousand : (1000 : Int64).toInt = 1000 := rfl
  dsimp only at low high
  rw [Int64.toInt_mul, thousand]
  exact Int.bmod_eq_of_le (by omega) (by omega)

/-- A count of seconds is no date just outside the covered years; in them, its milliseconds fit 64
bits, the date and time that it stands for is shown, and no other count has this text. -/
theorem formatEpoch_fixed (offset : Int) {s : Int64} (nonzero : s ≠ 0) :
    (formatEpoch (.fixed offset) (some s.toInt) = invalidDate ↔
      s.toInt < firstSecond.seconds ∨ lastSecond.seconds < s.toInt) ∧
    (firstSecond.seconds ≤ s.toInt → s.toInt ≤ lastSecond.seconds →
      (s * 1000).toInt = s.toInt * 1000 ∧
      TellsSecond (s.toInt + offset) (formatEpoch (.fixed offset) (some s.toInt)) ∧
      ∀ s' : Int64, formatEpoch (.fixed offset) (some s'.toInt) =
        formatEpoch (.fixed offset) (some s.toInt) → s' = s) := by
  have counted : s.toInt ≠ 0 := fun zero => nonzero (Int64.toInt_inj.mp zero)
  constructor
  · rw [formatEpoch_eq_invalidDate_iff _ counted, inRange_iff]
    dsimp only
    omega
  · intro low high
    have covered : (Moment.mk s.toInt false).InRange := inRange_iff.mpr ⟨low, high⟩
    refine ⟨toInt_mul_of_inRange covered, formatEpoch_of_inRange (.fixed offset) counted covered, ?_⟩
    intro s' same
    exact Int64.toInt_inj.mp (formatEpoch_fixed_injective offset counted covered same)

/-- One hour east of Greenwich the last covered second is shown in the year after it. -/
theorem formatEpoch_last_second :
    formatEpoch (.fixed 3600) (some (8210266876799 : Int64).toInt) = "01.01.+262143, 00:59:59" ∧
    formatEpoch (.fixed 3600) (some (8210266876800 : Int64).toInt) = invalidDate := by
  constructor
  · have covered := (formatEpoch_fixed 3600 (s := 8210266876799) (by decide)).2 (by decide) (by decide)
    obtain ⟨f, -, -, only, shown, -⟩ := covered.2.1
    have fields := only ⟨⟨262143, 1, 1⟩, 0, 59, 59⟩ (by decide) rfl
    rw [shown, ← fields]
    decide +kernel
  · exact (formatEpoch_fixed 3600 (s := 8210266876800) (by decide)).1.mpr (by decide)

end OrderLookup.Calendar
