import OrderLookup.Calendar.Moment
import OrderLookup.Proofs.Calendar.Date

/-!
# Moments and fields

What calendar and clock show at a reading, leap seconds included, is the one set of fields that
stands for it (`fields_of_reading?`, `fields_seconds`). The moments in covered years are those
between the first and the last second of these years (`inRange_iff`).
-/

namespace OrderLookup.Calendar

namespace Fields

/-- A real date and a time that is no leap second. -/
def IsPlain (f : Fields) : Prop :=
  f.date.IsReal ∧ f.hour ≤ 23 ∧ f.minute ≤ 59 ∧ f.second ≤ 59

instance (f : Fields) : Decidable f.IsPlain :=
  inferInstanceAs (Decidable (_ ∧ _ ∧ _ ∧ _))

/-- Seconds from 1970-01-01 to the date and time. -/
def seconds (f : Fields) : Int :=
  f.date.dayNumber * 86400 + f.hour * 3600 + f.minute * 60 + f.second

theorem reading?_eq_some {f : Fields} {r : Reading} (h : f.reading? = some r) :
    f.IsReal ∧ r = ⟨f.date.dayNumber * 86400 + f.hour * 3600 + f.minute * 60 +
      (min f.second 59 : Nat), f.second = 60⟩ := by
  unfold reading? at h
  split at h
  · next real => exact ⟨real, (Option.some.inj h).symm⟩
  · cases h

theorem reading?_of_isPlain {f : Fields} (plain : f.IsPlain) (covered : InYears f.date.year) :
    f.reading? = some ⟨f.seconds, false⟩ := by
  obtain ⟨real, hour, minute, second⟩ := plain
  have noLeap : ¬f.second = 60 := by omega
  unfold reading? seconds
  rw [if_pos ⟨real, covered, hour, minute, by omega⟩, Nat.min_eq_left second, decide_eq_false noLeap]

/-- The years of four digits are covered. -/
theorem inYears_of_digits {year : Int} (digits : 0 ≤ year ∧ year ≤ 9999) : InYears year := by
  unfold InYears firstYear lastYear
  omega

theorem reading?_of_digits {f : Fields} (plain : f.IsPlain)
    (digits : 0 ≤ f.date.year ∧ f.date.year ≤ 9999) : f.reading? = some ⟨f.seconds, false⟩ :=
  reading?_of_isPlain plain (inYears_of_digits digits)

end Fields

namespace Reading

def fields (r : Reading) : Fields :=
  ⟨r.date, r.hour, r.minute, r.second⟩

theorem fields_of_timeOfDay {day : Int} {date : Date} {hour minute second : Nat} {leap : Bool}
    (shows : Date.ofDayNumber day = date) (hours : hour ≤ 23) (minutes : minute ≤ 59)
    (seconds : second ≤ 59) :
    (Reading.mk (day * 86400 + hour * 3600 + minute * 60 + second) leap).fields =
      ⟨date, hour, minute, second + if leap then 1 else 0⟩ := by
  have days : (day * 86400 + hour * 3600 + minute * 60 + second) / 86400 = day := by omega
  have rest : ((day * 86400 + hour * 3600 + minute * 60 + second) % 86400).toNat =
      hour * 3600 + minute * 60 + second := by omega
  unfold fields Reading.date Reading.hour Reading.minute Reading.second timeOfDay
  dsimp only
  rw [days, rest, shows]
  congr 1
  · omega
  · omega
  · congr 1
    omega

/-- A second that leaps is shown as the sixtieth. -/
theorem fields_of_reading? {f : Fields} {r : Reading} (h : f.reading? = some r) : r.fields = f := by
  obtain ⟨⟨real, _, hour, minute, second⟩, rfl⟩ := Fields.reading?_eq_some h
  have least : min f.second 59 ≤ 59 := Nat.min_le_right _ _
  rw [fields_of_timeOfDay (Date.ofDayNumber_dayNumber real) hour minute least]
  congr 1
  by_cases leap : f.second = 60
  · simp [leap]
  · simp [leap]
    omega

theorem fields_seconds {f : Fields} (plain : f.IsPlain) :
    (Reading.mk f.seconds false).fields = f := by
  obtain ⟨real, hour, minute, second⟩ := plain
  exact fields_of_timeOfDay (Date.ofDayNumber_dayNumber real) hour minute second

theorem isPlain_fields (t : Int) : (Reading.mk t false).fields.IsPlain := by
  have real := Date.isReal_ofDayNumber (t / 86400)
  refine ⟨real, ?_, ?_, ?_⟩
  all_goals
    simp only [fields, hour, minute, second, timeOfDay, Bool.false_eq_true, if_false]
    omega

theorem seconds_fields (t : Int) : (Reading.mk t false).fields.seconds = t := by
  have number := Date.dayNumber_ofDayNumber (t / 86400)
  simp only [Fields.seconds, fields, date, number, hour, minute, second, timeOfDay,
    Bool.false_eq_true, if_false]
  omega

end Reading

/-- No two readings show the same. -/
theorem Fields.existsUnique (t : Int) :
    ∃ f : Fields, f.IsPlain ∧ f.seconds = t ∧ ∀ f' : Fields, f'.IsPlain → f'.seconds = t → f' = f := by
  refine ⟨_, Reading.isPlain_fields t, Reading.seconds_fields t, ?_⟩
  rintro f plain rfl
  exact (Reading.fields_seconds plain).symm

/-! ### Years -/

def yearAt (t : Int) : Int :=
  (Date.ofDayNumber (t / 86400)).year

def yearStart (year : Int) : Int :=
  (daysBeforeYear year - epochDay) * 86400

theorem le_yearAt_iff {year t : Int} : year ≤ yearAt t ↔ yearStart year ≤ t := by
  have days : year ≤ Date.yearOfDay (t / 86400 + epochDay) ↔ _ := Date.le_yearOfDay_iff
  change year ≤ Date.yearOfDay (t / 86400 + epochDay) ↔ _
  unfold yearStart
  omega

theorem yearAt_seconds {f : Fields} (plain : f.IsPlain) : yearAt f.seconds = f.date.year :=
  congrArg (fun f : Fields => f.date.year) (Reading.fields_seconds plain)

def firstSecond : Fields :=
  ⟨⟨firstYear, 1, 1⟩, 0, 0, 0⟩

def lastSecond : Fields :=
  ⟨⟨lastYear, 12, 31⟩, 23, 59, 59⟩

theorem inRange_iff {m : Moment} :
    m.InRange ↔ firstSecond.seconds ≤ m.seconds ∧ m.seconds ≤ lastSecond.seconds := by
  have first : firstSecond.seconds = yearStart firstYear := rfl
  have last : lastSecond.seconds + 1 = yearStart (lastYear + 1) := rfl
  have notBefore : firstYear ≤ yearAt m.seconds ↔ _ := le_yearAt_iff
  have notAfter : lastYear + 1 ≤ yearAt m.seconds ↔ _ := le_yearAt_iff
  change firstYear ≤ yearAt m.seconds ∧ yearAt m.seconds ≤ lastYear ↔ _
  omega

/-- The years of four digits are far from the first and the last covered one. -/
theorem inRange_sub {f : Fields} (plain : f.IsPlain)
    (digits : 0 ≤ f.date.year ∧ f.date.year ≤ 9999) {o : Int} (near : -172800 ≤ o ∧ o ≤ 172800)
    (leap : Bool) : (Moment.mk (f.seconds - o) leap).InRange := by
  have year := yearAt_seconds plain
  have low : yearStart 0 ≤ f.seconds := le_yearAt_iff.mp (by omega)
  have high : f.seconds < yearStart 10000 := Int.not_le.mp (mt le_yearAt_iff.mpr (by omega))
  have start : yearStart 0 = -62167219200 := rfl
  have stop : yearStart 10000 = 253402300800 := rfl
  have first : firstSecond.seconds = -8334601228800 := rfl
  have last : lastSecond.seconds = 8210266876799 := rfl
  rw [inRange_iff]
  dsimp only
  omega

end OrderLookup.Calendar
