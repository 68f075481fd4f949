import OrderLookup.Proofs.Calendar.Epoch
import OrderLookup.Proofs.Calendar.Timestamp

/-!
# Texts that tell an instant

A date and time with an offset, or a plain date, tells a second of universal time whatever the zone
(`Tells`). It is shown as this count of seconds is (`formatDate_tells`).
-/

namespace OrderLookup.Calendar

open OrderLookup.Text

/-- `Z`, or hours and minutes east or west of Greenwich, and the offset in seconds. -/
inductive OffsetText : List Char → Int → Prop
  | universal : OffsetText ['Z'] 0
  | east {hours minutes : Nat} (day : hours ≤ 23) (hour : minutes ≤ 59) :
    OffsetText ('+' :: Decimal.padded 2 hours ++ ':' :: Decimal.padded 2 minutes)
      (hours * 3600 + minutes * 60 : Nat)
  | west {hours minutes : Nat} (day : hours ≤ 23) (hour : minutes ≤ 59) :
    OffsetText ('-' :: Decimal.padded 2 hours ++ ':' :: Decimal.padded 2 minutes)
      (-(hours * 3600 + minutes * 60 : Nat))

/-- The text tells the second `t` seconds after 1970-01-01T00:00:00Z: by a time with an offset, of
which the fraction counts for nothing, or by a date, which stands for its midnight. -/
inductive Tells : String → Int → Prop
  | stamp {f : Fields} (plain : f.IsPlain) (year : 0 ≤ f.date.year ∧ f.date.year ≤ 9999)
    {fraction offset : List Char} {east : Int} (parts : FractionText fraction)
    (place : OffsetText offset east) :
    Tells (String.ofList (f.isoSecond ++ (fraction ++ offset))) (f.seconds - east)
  | date {d : Date} (real : d.IsReal) (year : 0 ≤ d.year ∧ d.year ≤ 9999) :
    Tells (String.ofList (Fields.mk d 0 0 0).isoDate) (d.dayNumber * 86400)

/-- An offset starts with no character that a fraction could go on with. -/
theorem OffsetText.stops {s : List Char} {east : Int} (place : OffsetText s east) :
    s.head? ≠ some '.' ∧ ∀ c ∈ s.head?, Decimal.isDigit c = false := by
  obtain ⟨c, rest, rfl, noPoint, noDigit⟩ :
      ∃ c rest, s = c :: rest ∧ c ≠ '.' ∧ Decimal.isDigit c = false := by
    cases place <;> exact ⟨_, _, rfl, by decide, by decide⟩
  exact ⟨by simpa using noPoint, by simpa using noDigit⟩

theorem OffsetText.near {s : List Char} {east : Int} (place : OffsetText s east) :
    -172800 ≤ east ∧ east ≤ 172800 := by
  cases place <;> omega

namespace Timestamp

variable {f : Fields} {s : List Char}

theorem offset_signed {c : Char} {sign : Int} (signed : c = '+' ∧ sign = 1 ∨ c = '-' ∧ sign = -1)
    {hours minutes : Nat} (day : hours ≤ 23) (hour : minutes ≤ 59) :
    offset (c :: Decimal.padded 2 hours ++ ':' :: Decimal.padded 2 minutes) =
      some (sign * (hours * 3600 + minutes * 60 : Nat), []) := by
  obtain ⟨rfl, rfl⟩ | ⟨rfl, rfl⟩ := signed
  all_goals
    rw [List.cons_append, offset, if_neg (by decide)]
    refine (bind_of_eq (exactly_two (by omega) _) _).trans ?_
    refine (bind_of_eq (after?_cons _ _) _).trans ?_
    refine (bind_of_eq (exactly_two_last (by omega)) _).trans ?_
    exact bind_of_eq (if_pos ⟨day, hour⟩) _

theorem offset_place {east : Int} (place : OffsetText s east) : offset s = some (east, []) := by
  cases place with
  | universal => rfl
  | east day hour => rw [offset_signed (.inl ⟨rfl, rfl⟩) day hour, Int.one_mul]
  | west day hour => rw [offset_signed (.inr ⟨rfl, rfl⟩) day hour, Int.neg_one_mul]

theorem withOffset_isoSecond_append (plain : f.IsPlain)
    (digits : 0 ≤ f.date.year ∧ f.date.year ≤ 9999) {parts : List Char} {east : Int}
    (fractional : FractionText parts) (place : OffsetText s east) :
    withOffset (f.isoSecond ++ (parts ++ s)) = some ⟨f.seconds - east, false⟩ := by
  have fits : f.Fits := ⟨digits.1, digits.2, plain.isShort⟩
  have ⟨_, _, _, _, _, _, second⟩ := fits
  rw [Fields.isoSecond_append, withOffset_isoMinute_append fits]
  refine (bind_of_eq (after?_cons _ _) _).trans ?_
  refine (bind_of_eq (exactly_two second _) _).trans ?_
  refine (bind_of_eq (fraction_append fractional place.stops.1 place.stops.2) _).trans ?_
  refine (bind_of_eq (offset_place place) _).trans ?_
  exact bind_of_eq (Fields.reading?_of_digits plain digits) _

/-! ### Plain dates -/

theorem read?_isoDate (zone : Zone) (fits : f.Fits) :
    read? zone f.isoDate =
      (Fields.reading? ⟨f.date, 0, 0, 0⟩).map fun r => ⟨r.seconds, r.leap⟩ := by
  have taken := date_iso fits []
  rw [List.append_nil] at taken
  have ⟨_, _, day, month, _⟩ := fits
  have year : f.date.year.toNat < 10000 := by omega
  have noStamp : withOffset f.isoDate = none := by
    have dated := Fields.isoDate_append f []
    rw [List.append_nil] at dated
    rw [dated, withOffset]
    refine (bind_of_eq (exactly_four year _) _).trans ?_
    refine (bind_of_eq (after?_cons _ _) _).trans ?_
    refine (bind_of_eq (exactly_two month _) _).trans ?_
    refine (bind_of_eq (after?_cons _ _) _).trans ?_
    exact bind_of_eq (exactly_two day _) _
  have noMinute : dateMinute f.isoDate = none := by
    rw [dateMinute]
    exact bind_of_eq taken _
  unfold read?
  rw [noStamp, toSecond, toMinute, noMinute, plainDate, taken]
  rfl

end Timestamp

theorem Tells.read? {text : String} {t : Int} (tells : Tells text t) (zone : Zone) :
    Timestamp.read? zone text.toList = some ⟨t, false⟩ ∧ (Moment.mk t false).InRange := by
  cases tells with
  | stamp plain year fractional place =>
    refine ⟨?_, inRange_sub plain year place.near false⟩
    rw [String.toList_ofList, Timestamp.read?,
      Timestamp.withOffset_isoSecond_append plain year fractional place]
  | @date d real year =>
    have plain : (Fields.mk d 0 0 0).IsPlain := ⟨real, Nat.zero_le _, Nat.zero_le _, Nat.zero_le _⟩
    have fits : (Fields.mk d 0 0 0).Fits := ⟨year.1, year.2, plain.isShort⟩
    have midnight : (Fields.mk d 0 0 0).seconds = d.dayNumber * 86400 := by
      simp [Fields.seconds]
    have range := inRange_sub plain year (o := 0) (by decide) false
    rw [Int.sub_zero, midnight] at range
    refine ⟨?_, range⟩
    rw [String.toList_ofList, Timestamp.read?_isoDate zone fits,
      Fields.reading?_of_digits plain year, midnight]
    rfl

theorem Tells.not_isEmpty {text : String} {t : Int} (tells : Tells text t) :
    text.isEmpty = false := by
  cases tells <;>
    exact isEmpty_ofList (by simp [Fields.isoSecond, Fields.isoMinute, Fields.isoDate])

/-- A text that tells an instant is shown as the date and time of the clock at this instant, that is
as the count of seconds is shown, and as every other text that tells it. -/
theorem formatDate_tells (zone : Zone) {text : String} {t : Int} (tells : Tells text t) :
    TellsSecond (t + zone.offsetAt t) (formatDate zone text) ∧
    (t ≠ 0 → formatDate zone text = formatEpoch zone (some t)) ∧
    ∀ other, Tells other t → formatDate zone other = formatDate zone text := by
  have shown {text : String} (tells : Tells text t) :
      formatDate zone text = (Moment.mk t false).display zone := by
    rw [formatDate, tells.not_isEmpty, (tells.read? zone).1]
    rfl
  have covered := (tells.read? zone).2
  refine ⟨?_, ?_, ?_⟩
  · rw [shown tells]
    exact tellsSecond_display zone t
  · intro nonzero
    rw [shown tells, formatEpoch, if_neg nonzero, if_pos covered]
  · intro other told
    rw [shown told, shown tells]

/-- Half past eleven on a leap day, an hour and three quarters west, and the same instant on the next
day in universal time. -/
theorem formatDate_leap_day :
    Tells "2024-02-29T23:30:00.75-01:45" 1709255700 ∧ Tells "2024-03-01T01:15:00Z" 1709255700 ∧
    formatDate (.fixed 20700) "2024-02-29T23:30:00.75-01:45" =
      formatEpoch (.fixed 20700) (some 1709255700) ∧
    formatDate (.fixed 20700) "2024-03-01T01:15:00Z" =
      formatDate (.fixed 20700) "2024-02-29T23:30:00.75-01:45" := by
  have night : Fields.IsPlain ⟨⟨2024, 2, 29⟩, 23, 30, 0⟩ := by decide
  have morning : Fields.IsPlain ⟨⟨2024, 3, 1⟩, 1, 15, 0⟩ := by decide
  have parts := FractionText.parts (show Decimal.Digits 2 ['7', '5'] by decide)
  have place := OffsetText.west (show 1 ≤ 23 by decide) (show 45 ≤ 59 by decide)
  have west : Tells "2024-02-29T23:30:00.75-01:45" 1709255700 :=
    cast (congrArg₂ Tells (by decide +kernel) (by decide)) (Tells.stamp night (by decide) parts place)
  have universal : Tells "2024-03-01T01:15:00Z" 1709255700 :=
    cast (congrArg₂ Tells (by decide +kernel) (by decide))
      (Tells.stamp morning (by decide) .whole .universal)
  obtain ⟨-, epoch, same⟩ := formatDate_tells (.fixed 20700) west
  exact ⟨west, universal, epoch (by decide), same _ universal⟩

end OrderLookup.Calendar
