import Mathlib.Data.Option.Basic
import OrderLookup.Proofs.Calendar.Timestamp

/-!
# The shape of displayed dates

Whatever the text and the zone, what is shown is nothing, no date, or a real date and a time of day
in two digits each. A sixtieth second is shown only if the text has one (`formatDate_shape`).
-/

namespace OrderLookup.Calendar

open OrderLookup.Text

/-- `rest` is the end of `s` and no colon stands before it. -/
def ColonFree (s rest : List Char) : Prop :=
  ∃ front, s = front ++ rest ∧ ':' ∉ front

namespace ColonFree

variable {s t rest : List Char}

theorem trans (first : ColonFree s t) (second : ColonFree t rest) : ColonFree s rest := by
  obtain ⟨front, rfl, free⟩ := first
  obtain ⟨back, rfl, free'⟩ := second
  exact ⟨front ++ back, (List.append_assoc _ _ _).symm, by simp [free, free']⟩

theorem cons {c : Char} (other : c ≠ ':') (s : List Char) : ColonFree (c :: s) s :=
  ⟨[c], rfl, by simpa using other.symm⟩

theorem digits {count : Nat} {numeral : List Char} (digits : Decimal.Digits count numeral) :
    ColonFree (numeral ++ rest) rest :=
  ⟨numeral, rfl, fun member => absurd (digits.2 _ member) (by decide)⟩

theorem trimStart (s : List Char) : ColonFree s (trimStart s) := by
  refine ⟨s.takeWhile isBlank, List.takeWhile_append_dropWhile.symm, ?_⟩
  intro member
  exact absurd (List.mem_takeWhile_imp member) (by decide)

end ColonFree

/-- The number after the second colon is sixty. -/
def CarriesSixty (s : List Char) : Prop :=
  ∃ minutes blanks rest, ColonFree s (':' :: minutes) ∧
    ColonFree minutes (':' :: (blanks ++ '6' :: '0' :: rest)) ∧
    (∀ c ∈ blanks, isBlank c = true) ∧ ∀ c ∈ rest.head?, Decimal.isDigit c = false

namespace Timestamp

variable {s rest : List Char} {n : Nat}

/-! ### What the readers pass over -/

theorem after?_ok {c : Char} (h : after? c s = some rest) : s = c :: rest := by
  cases s with
  | nil => cases h
  | cons d s =>
    rw [after?] at h
    split at h
    · next same => rw [same, Option.some.inj h]
    · cases h

theorem after?_colonFree {c : Char} (h : after? c s = some rest) (other : c ≠ ':') :
    ColonFree s rest := by
  rw [after?_ok h]
  exact .cons other rest

theorem exactly_colonFree {count : Nat} (h : Decimal.exactly count s = some (n, rest)) :
    ColonFree s rest := by
  obtain ⟨numeral, digits, rfl, -⟩ := Decimal.exactly_ok h
  exact .digits digits

theorem upTo_colonFree {limit : Nat} (h : Decimal.upTo limit s = some (n, rest)) :
    ColonFree s rest := by
  obtain ⟨count, numeral, -, digits, rfl, -⟩ := Decimal.upTo_ok h
  exact .digits digits

theorem run_colonFree (h : Decimal.run s = some (n, rest)) : ColonFree s rest := by
  obtain ⟨count, numeral, digits, rfl⟩ := Decimal.run_ok h
  exact .digits digits

theorem short_colonFree (h : short s = some (n, rest)) : ColonFree s rest :=
  (ColonFree.trimStart s).trans (upTo_colonFree h)

theorem map_colonFree {read : Option (Nat × List Char)} {sign : Nat × List Char → Int × List Char}
    {y : Int} (same : ∀ taken, (sign taken).2 = taken.2)
    (free : ∀ n t, read = some (n, t) → ColonFree s t) (h : read.map sign = some (y, rest)) :
    ColonFree s rest := by
  obtain ⟨⟨n, t⟩, taken, moved⟩ := Option.map_eq_some_iff.mp h
  have last := same (n, t)
  rw [moved] at last
  obtain rfl : rest = t := last
  exact free n _ taken

theorem year_colonFree {y : Int} (h : year s = some (y, rest)) : ColonFree s rest := by
  refine (ColonFree.trimStart s).trans ?_
  unfold year at h
  split at h
  · next t trimmed =>
    have numeral := map_colonFree (fun _ => rfl) (fun _ _ => run_colonFree) h
    rw [trimmed]
    exact (ColonFree.cons (by decide) t).trans numeral
  · next t trimmed =>
    have numeral := map_colonFree (fun _ => rfl) (fun _ _ => run_colonFree) h
    rw [trimmed]
    exact (ColonFree.cons (by decide) t).trans numeral
  · exact map_colonFree (fun _ => rfl) (fun _ _ => upTo_colonFree) h

theorem date_colonFree {d : Date} (h : date s = some (d, rest)) : ColonFree s rest := by
  obtain ⟨⟨y, s₁⟩, years, h⟩ := Option.bind_eq_some_iff.mp h
  obtain ⟨s₂, hyphen, h⟩ := Option.bind_eq_some_iff.mp h
  obtain ⟨⟨month, s₃⟩, months, h⟩ := Option.bind_eq_some_iff.mp h
  obtain ⟨s₄, hyphen', h⟩ := Option.bind_eq_some_iff.mp h
  obtain ⟨⟨day, s₅⟩, days, h⟩ := Option.bind_eq_some_iff.mp h
  obtain ⟨-, rfl⟩ := Prod.mk.inj (Option.some.inj h)
  have toMonth := (year_colonFree years).trans (after?_colonFree hyphen (by decide))
  have toDay := (short_colonFree months).trans (after?_colonFree hyphen' (by decide))
  exact (toMonth.trans toDay).trans (short_colonFree days)

theorem dateMinute_colonFree {d : Date} {hour minute : Nat}
    (h : dateMinute s = some ((d, hour, minute), rest)) :
    ∃ minutes, ColonFree s (':' :: minutes) ∧ ColonFree minutes rest := by
  obtain ⟨⟨d, s₁⟩, dated, h⟩ := Option.bind_eq_some_iff.mp h
  obtain ⟨s₂, letter, h⟩ := Option.bind_eq_some_iff.mp h
  obtain ⟨⟨hour, s₃⟩, hours, h⟩ := Option.bind_eq_some_iff.mp h
  obtain ⟨s₄, colon, h⟩ := Option.bind_eq_some_iff.mp h
  obtain ⟨⟨minute, s₅⟩, minutes, h⟩ := Option.bind_eq_some_iff.mp h
  obtain ⟨-, rfl⟩ := Prod.mk.inj (Option.some.inj h)
  have toHour := (date_colonFree dated).trans (after?_colonFree letter (by decide))
  have toColon := toHour.trans (short_colonFree hours)
  rw [after?_ok colon] at toColon
  exact ⟨s₄, toColon, short_colonFree minutes⟩

/-! ### Leap seconds -/

/-- A numeral of at most two digits is worth sixty only if it is written so. -/
theorem sixty_of_digits {count : Nat} {numeral : List Char} (short : count ≤ 2)
    (digits : Decimal.Digits count numeral) (sixty : Decimal.value numeral = 60) :
    numeral = ['6', '0'] := by
  have worth := Decimal.value_lt digits
  rw [sixty] at worth
  obtain rfl | rfl | rfl : count = 0 ∨ count = 1 ∨ count = 2 := by omega
  · exact absurd worth (by decide)
  · exact absurd worth (by decide)
  · rw [← Decimal.padded_value digits, sixty]
    decide +kernel

theorem exactly_sixty (h : Decimal.exactly 2 s = some (60, rest)) : s = '6' :: '0' :: rest := by
  obtain ⟨numeral, digits, rfl, sixty⟩ := Decimal.exactly_ok h
  rw [sixty_of_digits (Nat.le_refl 2) digits sixty]
  rfl

theorem short_sixty (h : short s = some (60, rest)) :
    ∃ blanks, s = blanks ++ '6' :: '0' :: rest ∧ ∀ c ∈ blanks, isBlank c = true := by
  obtain ⟨count, numeral, small, digits, trimmed, sixty⟩ := Decimal.upTo_ok h
  rw [sixty_of_digits small digits sixty] at trimmed
  refine ⟨s.takeWhile isBlank, ?_, fun c => List.mem_takeWhile_imp⟩
  exact List.takeWhile_append_dropWhile.symm.trans (congrArg (s.takeWhile isBlank ++ ·) trimmed)

theorem second_of_leap {f : Fields} {r : Reading} (h : f.reading? = some r)
    (leap : r.leap = true) : f.second = 60 := by
  obtain ⟨-, rfl⟩ := Fields.reading?_eq_some h
  exact of_decide_eq_true leap

theorem fraction_stops (h : fraction s = some rest)
    (stops : ∀ c ∈ rest.head?, Decimal.isDigit c = false) :
    ∀ c ∈ s.head?, Decimal.isDigit c = false := by
  unfold fraction at h
  split at h
  · rintro _ ⟨⟩
    rfl
  · obtain rfl := Option.some.inj h
    exact stops

theorem offset_stops {east : Int} (h : offset s = some (east, rest)) :
    ∀ c ∈ s.head?, Decimal.isDigit c = false := by
  intro c first
  cases s with
  | nil => cases first
  | cons d s =>
    obtain rfl := Option.some.inj first
    cases digit : Decimal.isDigit d with
    | false => rfl
    | true =>
      have other {x : Char} (noDigit : Decimal.isDigit x = false) : d ≠ x := by
        rintro rfl
        rw [noDigit] at digit
        cases digit
      simp [offset, other (x := 'Z') rfl, other (x := 'z') rfl, other (x := '+') rfl,
        other (x := '-') rfl, other (x := '\u2212') rfl] at h

theorem mark_colonFree {s₁ : List Char}
    (h : (after? 'T' s <|> after? 't' s <|> after? ' ' s) = some s₁) : ColonFree s s₁ := by
  rcases (Option.orElse_eq_some _ _ _).mp h with upper | ⟨-, h⟩
  · exact after?_colonFree upper (by decide)
  · rcases (Option.orElse_eq_some _ _ _).mp h with lower | ⟨-, blank⟩
    · exact after?_colonFree lower (by decide)
    · exact after?_colonFree blank (by decide)

theorem withOffset_leap {m : Moment} (h : withOffset s = some m) (leap : m.leap = true) :
    CarriesSixty s := by
  obtain ⟨⟨y, s₁⟩, years, h⟩ := Option.bind_eq_some_iff.mp h
  obtain ⟨s₂, hyphen, h⟩ := Option.bind_eq_some_iff.mp h
  obtain ⟨⟨month, s₃⟩, months, h⟩ := Option.bind_eq_some_iff.mp h
  obtain ⟨s₄, hyphen', h⟩ := Option.bind_eq_some_iff.mp h
  obtain ⟨⟨day, s₅⟩, days, h⟩ := Option.bind_eq_some_iff.mp h
  obtain ⟨s₆, mark, h⟩ := Option.bind_eq_some_iff.mp h
  obtain ⟨⟨hour, s₇⟩, hours, h⟩ := Option.bind_eq_some_iff.mp h
  obtain ⟨s₈, colon, h⟩ := Option.bind_eq_some_iff.mp h
  obtain ⟨⟨minute, s₉⟩, minutes, h⟩ := Option.bind_eq_some_iff.mp h
  obtain ⟨s₁₀, colon', h⟩ := Option.bind_eq_some_iff.mp h
  obtain ⟨⟨second, s₁₁⟩, seconds, h⟩ := Option.bind_eq_some_iff.mp h
  obtain ⟨s₁₂, parts, h⟩ := Option.bind_eq_some_iff.mp h
  obtain ⟨⟨east, s₁₃⟩, place, h⟩ := Option.bind_eq_some_iff.mp h
  obtain ⟨_, _, h⟩ := Option.bind_eq_some_iff.mp h
  obtain ⟨r, reading, h⟩ := Option.bind_eq_some_iff.mp h
  obtain rfl := Option.some.inj h
  obtain rfl : second = 60 := second_of_leap reading leap
  -- Only the two steps past a colon take one; what the others take leads up to it.
  have toMonth := (exactly_colonFree years).trans (after?_colonFree hyphen (by decide))
  have toDay := (exactly_colonFree months).trans (after?_colonFree hyphen' (by decide))
  have toHour := (exactly_colonFree days).trans (mark_colonFree mark)
  have toColon := ((toMonth.trans toDay).trans toHour).trans (exactly_colonFree hours)
  have toColon' := exactly_colonFree minutes
  rw [after?_ok colon] at toColon
  rw [after?_ok colon', exactly_sixty seconds] at toColon'
  refine ⟨s₈, [], s₁₁, toColon, toColon', ?_, fraction_stops parts (offset_stops place)⟩
  intro c member
  cases member

theorem toSecond_leap {r : Reading} (h : toSecond s = some r) (leap : r.leap = true) :
    CarriesSixty s := by
  obtain ⟨⟨⟨d, hour, minute⟩, s₁⟩, start, h⟩ := Option.bind_eq_some_iff.mp h
  obtain ⟨s₂, colon, h⟩ := Option.bind_eq_some_iff.mp h
  obtain ⟨⟨second, s₃⟩, seconds, h⟩ := Option.bind_eq_some_iff.mp h
  obtain ⟨s₄, parts, h⟩ := Option.bind_eq_some_iff.mp h
  obtain ⟨_, ends, reading⟩ := Option.bind_eq_some_iff.mp h
  obtain rfl : second = 60 := second_of_leap reading leap
  obtain ⟨minutes, toColon, toColon'⟩ := dateMinute_colonFree start
  obtain ⟨blanks, rfl, all⟩ := short_sixty seconds
  rw [after?_ok colon] at toColon'
  have empty : s₄ = [] := List.isEmpty_iff.mp ((Option.guard_eq_some' _).mp ends)
  subst empty
  exact ⟨minutes, blanks, s₃, toColon, toColon', all, fraction_stops parts fun _ h => nomatch h⟩

theorem toMinute_leap {r : Reading} (h : toMinute s = some r) : r.leap = false := by
  obtain ⟨⟨⟨d, hour, minute⟩, s₁⟩, start, h⟩ := Option.bind_eq_some_iff.mp h
  obtain ⟨_, ends, reading⟩ := Option.bind_eq_some_iff.mp h
  obtain ⟨-, rfl⟩ := Fields.reading?_eq_some reading
  rfl

theorem plainDate_leap {r : Reading} (h : plainDate s = some r) : r.leap = false := by
  obtain ⟨⟨d, s₁⟩, dated, h⟩ := Option.bind_eq_some_iff.mp h
  obtain ⟨_, ends, reading⟩ := Option.bind_eq_some_iff.mp h
  obtain ⟨-, rfl⟩ := Fields.reading?_eq_some reading
  rfl

theorem moment?_leap {zone : Zone} {r : Reading} {m : Moment} (h : zone.moment? r = some m) :
    m.leap = r.leap := by
  obtain ⟨o, -, h⟩ := Option.bind_eq_some_iff.mp h
  dsimp only at h
  split at h
  · rw [← Option.some.inj h]
  · cases h

/-- A leap second is read only from a text that has a sixtieth second. -/
theorem read?_leap {zone : Zone} {m : Moment} (h : read? zone s = some m) (leap : m.leap = true) :
    CarriesSixty s := by
  unfold read? at h
  split at h
  · next offset =>
    rw [Option.some.inj h] at offset
    exact withOffset_leap offset leap
  · split at h
    · next r clock =>
      rw [moment?_leap h] at leap
      rcases (Option.orElse_eq_some _ _ _).mp clock with second | ⟨-, minute⟩
      · exact toSecond_leap second leap
      · rw [toMinute_leap minute] at leap
        cases leap
    · obtain ⟨r, dated, rfl⟩ := Option.map_eq_some_iff.mp h
      rw [plainDate_leap dated] at leap
      cases leap

end Timestamp

/-! ### Displayed readings -/

def Numeral (width n : Nat) (s : List Char) : Prop :=
  Decimal.Digits width s ∧ Decimal.value s = n

/-- The year in four digits, or outside 0..9999 in four or more after its sign. -/
def YearNumeral (year : Int) (s : List Char) : Prop :=
  if 0 ≤ year ∧ year ≤ 9999 then Numeral 4 year.natAbs s
  else ∃ width digits, 4 ≤ width ∧ Numeral width year.natAbs digits ∧
    s = (if year < 0 then '-' else '+') :: digits

def Fields.ShownAs (f : Fields) (text : String) : Prop :=
  ∃ day month year hour minute second : List Char,
    Numeral 2 f.date.day day ∧ Numeral 2 f.date.month month ∧ YearNumeral f.date.year year ∧
    Numeral 2 f.hour hour ∧ Numeral 2 f.minute minute ∧ Numeral 2 f.second second ∧
    text = String.ofList (day ++ '.' :: month ++ '.' :: year ++ ',' :: ' ' :: hour ++
      ':' :: minute ++ ':' :: second)

theorem numeral_padded {width n : Nat} (small : n < 10 ^ (width + 1)) :
    Numeral (width + 1) n (Decimal.padded (width + 1) n) :=
  ⟨Decimal.digits_padded small, Decimal.value_padded _ n⟩

theorem yearNumeral_yearText (year : Int) : YearNumeral year (yearText year) := by
  unfold YearNumeral yearText
  split
  · next plain =>
    have same : year.toNat = year.natAbs := by omega
    rw [same]
    exact numeral_padded (by omega)
  · exact ⟨_, _, Decimal.le_length_padded 4 _,
      ⟨⟨rfl, fun _ => Decimal.isDigit_of_mem_padded⟩, Decimal.value_padded 4 _⟩, rfl⟩

theorem Fields.IsShort.shownAs_text {f : Fields} (short : f.IsShort) : f.ShownAs f.text := by
  obtain ⟨day, month, hour, minute, second⟩ := short
  exact ⟨_, _, _, _, _, _, numeral_padded day, numeral_padded month, yearNumeral_yearText _,
    numeral_padded hour, numeral_padded minute, numeral_padded second, rfl⟩

/-- Calendar and clock show a real date and time, and a sixtieth second only for a leap second. -/
theorem Reading.fields_bounds (r : Reading) :
    r.fields.date.IsReal ∧ r.fields.hour ≤ 23 ∧ r.fields.minute ≤ 59 ∧ r.fields.second ≤ 60 ∧
      (r.fields.second = 60 → r.leap = true) := by
  obtain ⟨t, leap⟩ := r
  obtain ⟨real, hour, minute, second⟩ := Reading.isPlain_fields t
  cases leap with
  | false =>
    refine ⟨real, hour, minute, by omega, ?_⟩
    intro sixty
    omega
  | true => exact ⟨real, hour, minute, Nat.succ_le_succ second, fun _ => rfl⟩

/-- Nothing is shown just for an empty text. Any other text is shown as no date or as a real date and
time of day; the second is the sixtieth only if it is in the text. -/
theorem formatDate_shape (zone : Zone) (text : String) :
    (formatDate zone text = "" ↔ text = "") ∧
    (text ≠ "" → formatDate zone text = invalidDate ∨
      ∃ f : Fields, f.ShownAs (formatDate zone text) ∧ f.date.IsReal ∧ f.hour ≤ 23 ∧
        f.minute ≤ 59 ∧ f.second ≤ 60 ∧ (f.second = 60 → CarriesSixty text.toList)) := by
  by_cases empty : text = ""
  · subst empty
    exact ⟨iff_of_true rfl rfl, fun filled => absurd rfl filled⟩
  · have filled : ¬text.isEmpty = true := mt String.isEmpty_iff.mp empty
    cases read : Timestamp.read? zone text.toList with
    | none =>
      have shown : formatDate zone text = invalidDate := by
        rw [formatDate, if_neg filled, read]
      rw [shown]
      exact ⟨iff_of_false (by decide) empty, fun _ => Or.inl rfl⟩
    | some m =>
      have shown : formatDate zone text = (zone.reading m).fields.text := by
        rw [formatDate, if_neg filled, read]
        exact text_fields _
      obtain ⟨real, hour, minute, second, leap⟩ := (zone.reading m).fields_bounds
      have short : (zone.reading m).fields.IsShort := by
        obtain ⟨first, last, -, day⟩ := real
        have fits := (Date.daysInMonth_bounds (zone.reading m).fields.date.year first last).2
        unfold Fields.IsShort
        omega
      rw [shown]
      refine ⟨iff_of_false (text_ne_empty _) empty, fun _ => Or.inr ⟨_, short.shownAs_text, real,
        hour, minute, second, ?_⟩⟩
      intro sixty
      exact Timestamp.read?_leap read (leap sixty)

/-- White space, short numbers and a year with a sign are read, and the sixtieth second is kept. -/
theorem formatDate_shape_loose :
    formatDate .utc " -1-2-3T4:5: 60" = "03.02.-0001, 04:05:60" ∧
    ∃ f : Fields, f.ShownAs "03.02.-0001, 04:05:60" ∧ f.date.IsReal ∧ f.hour ≤ 23 ∧
      f.minute ≤ 59 ∧ f.second ≤ 60 ∧
      (f.second = 60 → CarriesSixty " -1-2-3T4:5: 60".toList) := by
  have shown : formatDate .utc " -1-2-3T4:5: 60" = "03.02.-0001, 04:05:60" := by decide +kernel
  have shape := (formatDate_shape .utc " -1-2-3T4:5: 60").2 (by decide)
  rw [shown] at shape
  exact ⟨shown, shape.resolve_left (by decide)⟩

end OrderLookup.Calendar
