import OrderLookup.Proofs.Calendar.Timestamp

/-!
# Times of a clock at a fixed offset

A clock at a fixed offset shows every date and time once. What is written without an offset is shown
in the digits it was written in if there is such a date and time, and is no date otherwise
(`formatDate_fixed_clock`), whatever the offset.
-/

namespace OrderLookup.Calendar

open OrderLookup.Text

structure ClockDigits where
  year : List Char
  month : List Char
  day : List Char
  hour : List Char
  minute : List Char
  second : List Char

namespace ClockDigits

structure Proper (d : ClockDigits) : Prop where
  year : Decimal.Digits 4 d.year
  month : Decimal.Digits 2 d.month
  day : Decimal.Digits 2 d.day
  hour : Decimal.Digits 2 d.hour
  minute : Decimal.Digits 2 d.minute
  second : Decimal.Digits 2 d.second

def toMinute (d : ClockDigits) : List Char :=
  d.year ++ '-' :: d.month ++ '-' :: d.day ++ 'T' :: d.hour ++ ':' :: d.minute

inductive WrittenAs (d : ClockDigits) : List Char → Prop
  | second {fraction : List Char} (fractional : FractionText fraction) :
    WrittenAs d (d.toMinute ++ ':' :: (d.second ++ fraction))
  | minute (whole : d.second = ['0', '0']) : WrittenAs d d.toMinute

def shown (d : ClockDigits) : String :=
  String.ofList (d.day ++ '.' :: d.month ++ '.' :: d.year ++ ',' :: ' ' :: d.hour ++
    ':' :: d.minute ++ ':' :: d.second)

def fields (d : ClockDigits) : Fields :=
  ⟨⟨Decimal.value d.year, Decimal.value d.month, Decimal.value d.day⟩,
    Decimal.value d.hour, Decimal.value d.minute, Decimal.value d.second⟩

variable {d : ClockDigits}

theorem fits_fields (proper : d.Proper) : d.fields.Fits := by
  have year := Decimal.value_lt proper.year
  have month := Decimal.value_lt proper.month
  have day := Decimal.value_lt proper.day
  have hour := Decimal.value_lt proper.hour
  have minute := Decimal.value_lt proper.minute
  have second := Decimal.value_lt proper.second
  unfold Fields.Fits Fields.IsShort fields
  dsimp only
  omega

theorem isoMinute_fields (proper : d.Proper) : d.fields.isoMinute = d.toMinute := by
  simp only [Fields.isoMinute, Fields.isoDate, fields, toMinute, Int.toNat_natCast,
    Decimal.padded_value proper.year, Decimal.padded_value proper.month,
    Decimal.padded_value proper.day, Decimal.padded_value proper.hour,
    Decimal.padded_value proper.minute]

theorem isoSecond_fields (proper : d.Proper) :
    d.fields.isoSecond = d.toMinute ++ ':' :: d.second := by
  have second : Decimal.padded 2 d.fields.second = d.second := Decimal.padded_value proper.second
  rw [Fields.isoSecond, isoMinute_fields proper, second]

theorem text_fields (proper : d.Proper) : d.fields.text = d.shown := by
  have year : yearText d.fields.date.year = d.year := by
    obtain ⟨low, high, -⟩ := fits_fields proper
    rw [yearText, if_pos ⟨low, high⟩]
    exact Decimal.padded_value proper.year
  unfold Fields.text
  rw [year]
  simp only [fields, shown, Decimal.padded_value proper.month, Decimal.padded_value proper.day,
    Decimal.padded_value proper.hour, Decimal.padded_value proper.minute,
    Decimal.padded_value proper.second]

end ClockDigits

/-! ### At a fixed offset -/

variable {offset : Int} {f : Fields}

/-- A leap second, too, is shown as it was read. -/
theorem display_fixed (small : -86400 < offset ∧ offset < 86400) (fits : f.Fits) {r : Reading}
    (read : f.reading? = some r) :
    ((Zone.fixed offset).moment? r).map (·.display (.fixed offset)) = some f.text := by
  obtain ⟨⟨real, -, hour, minute, -⟩, counted⟩ := Fields.reading?_eq_some read
  -- A leap second is counted as the second before it, which is in a covered year.
  have plain : Fields.IsPlain { f with second := min f.second 59 } :=
    ⟨real, hour, minute, Nat.min_le_right _ _⟩
  have same : r.seconds = Fields.seconds { f with second := min f.second 59 } := by
    rw [counted]
    rfl
  have covered : (Moment.mk (r.seconds - offset) r.leap).InRange := by
    rw [same]
    exact inRange_sub plain ⟨fits.1, fits.2.1⟩ (by omega) r.leap
  have found : (Zone.fixed offset).moment? r = some ⟨r.seconds - offset, r.leap⟩ := if_pos covered
  have back : (Zone.fixed offset).reading ⟨r.seconds - offset, r.leap⟩ = r := by
    unfold Zone.reading Zone.offsetAt
    dsimp only
    rw [Int.sub_add_cancel]
  rw [found, Option.map_some, Moment.display, back, text_fields, Reading.fields_of_reading? read]

theorem formatDate_fixed_of_read? (small : -86400 < offset ∧ offset < 86400) (fits : f.Fits)
    {text : String} (filled : text.isEmpty = false)
    (read : Timestamp.read? (.fixed offset) text.toList =
      f.reading?.bind (Zone.fixed offset).moment?) :
    formatDate (.fixed offset) text = if f.IsReal then f.text else invalidDate := by
  rw [formatDate, filled, read]
  cases reading : f.reading? with
  | none =>
    have notReal : ¬f.IsReal := by
      intro real
      rw [Fields.reading?, if_pos real] at reading
      cases reading
    rw [if_neg notReal]
    rfl
  | some r =>
    have shown := display_fixed small fits reading
    obtain ⟨m, moment, same⟩ := Option.map_eq_some_iff.mp shown
    rw [if_pos (Fields.reading?_eq_some reading).1, Option.bind_some, moment]
    exact same

theorem Fields.Fits.isReal_iff (fits : f.Fits) :
    f.IsReal ↔ f.date.IsReal ∧ f.hour ≤ 23 ∧ f.minute ≤ 59 ∧ f.second ≤ 60 := by
  have covered := Fields.inYears_of_digits ⟨fits.1, fits.2.1⟩
  exact and_congr_right fun _ => and_iff_right covered

/-- A date and time without an offset are shown in their own digits if they are real, the second up
to the sixtieth, and are no date otherwise. -/
theorem formatDate_fixed_clock (small : -86400 < offset ∧ offset < 86400) {d : ClockDigits}
    (proper : d.Proper) {s : List Char} (written : d.WrittenAs s) :
    formatDate (.fixed offset) (String.ofList s) =
      if d.fields.date.IsReal ∧ d.fields.hour ≤ 23 ∧ d.fields.minute ≤ 59 ∧ d.fields.second ≤ 60
      then d.shown else invalidDate := by
  have fits := ClockDigits.fits_fields proper
  have filled : (String.ofList s).isEmpty = false := by
    cases written <;> exact isEmpty_ofList (by simp [ClockDigits.toMinute])
  have read : Timestamp.read? (.fixed offset) (String.ofList s).toList =
      d.fields.reading?.bind (Zone.fixed offset).moment? := by
    rw [String.toList_ofList]
    cases written with
    | second fractional =>
      have ends := Timestamp.fraction_self fractional
      have read := Timestamp.read?_isoSecond (.fixed offset) fits ends
      rwa [ClockDigits.isoSecond_fields proper, List.append_assoc, List.cons_append] at read
    | minute whole =>
      have read := Timestamp.read?_isoMinute (.fixed offset) fits
      have zero : d.fields.second = 0 := by
        unfold ClockDigits.fields
        rw [whole]
        rfl
      have same : { d.fields with second := 0 } = d.fields := by rw [← zero]
      rwa [ClockDigits.isoMinute_fields proper, same] at read
  rw [formatDate_fixed_of_read? small fits filled read, ClockDigits.text_fields proper]
  exact if_congr fits.isReal_iff rfl rfl

/-- The leap second of 2016 by a clock some hours and seconds ahead; the 29th of February of the year
before is no date. -/
theorem formatDate_fixed_leap_second :
    formatDate (.fixed 12345) "2016-12-31T23:59:60.25" = "31.12.2016, 23:59:60" ∧
    formatDate (.fixed 12345) "2015-02-29T10:00" = invalidDate := by
  have small : (-86400 : Int) < 12345 ∧ (12345 : Int) < 86400 := by decide
  have december : ClockDigits.Proper
      ⟨['2', '0', '1', '6'], ['1', '2'], ['3', '1'], ['2', '3'], ['5', '9'], ['6', '0']⟩ := by
    constructor <;> decide
  have february : ClockDigits.Proper
      ⟨['2', '0', '1', '5'], ['0', '2'], ['2', '9'], ['1', '0'], ['0', '0'], ['0', '0']⟩ := by
    constructor <;> decide
  have parts := FractionText.parts (show Decimal.Digits 2 ['2', '5'] by decide)
  have shown := formatDate_fixed_clock small december (.second parts)
  have refused := formatDate_fixed_clock small february (.minute rfl)
  rw [if_pos (by decide)] at shown
  rw [if_neg (by decide)] at refused
  exact ⟨shown, refused⟩

end OrderLookup.Calendar
