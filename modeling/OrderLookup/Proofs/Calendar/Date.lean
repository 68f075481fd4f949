import Mathlib.Algebra.Ring.Nat
import OrderLookup.Calendar.Date

/-!
# Days and dates

Numbering dates by days is a bijection between real dates and the integers (`ofDayNumber_dayNumber`,
`dayNumber_ofDayNumber`) that starts at 1970-01-01 and follows the calendar (`dayNumber_next`), over
all years.
-/

namespace OrderLookup.Calendar

/-! ### Years -/

theorem isLeapYear_iff (year : Int) :
    isLeapYear year = true ↔ year % 4 = 0 ∧ (year % 100 ≠ 0 ∨ year % 400 = 0) := by
  simp [isLeapYear]

theorem sum_monthLengths (year : Int) :
    (monthLengths year).sum = if isLeapYear year then 366 else 365 := by
  unfold monthLengths
  split <;> rfl

theorem daysBeforeYear_succ (year : Int) :
    daysBeforeYear (year + 1) = daysBeforeYear year + (monthLengths year).sum := by
  have leap := isLeapYear_iff year
  rw [sum_monthLengths]
  unfold daysBeforeYear
  split
  · next h =>
    have := leap.mp h
    omega
  · next h =>
    have := mt leap.mpr h
    omega

theorem daysBeforeYear_lt {y y' : Int} (h : y < y') : daysBeforeYear y < daysBeforeYear y' := by
  unfold daysBeforeYear
  omega

theorem daysBeforeYear_le {y y' : Int} (h : y ≤ y') : daysBeforeYear y ≤ daysBeforeYear y' := by
  unfold daysBeforeYear
  omega

theorem daysBeforeYear_lt_iff {y y' : Int} : daysBeforeYear y < daysBeforeYear y' ↔ y < y' :=
  ⟨fun h => Int.not_le.mp fun h' => Int.not_le.mpr h (daysBeforeYear_le h'), daysBeforeYear_lt⟩

namespace Date

theorem daysBeforeYear_bounds (year : Int) :
    146097 * year - 400 ≤ 400 * daysBeforeYear year ∧
      400 * daysBeforeYear year ≤ 146097 * year + 700 := by
  unfold daysBeforeYear
  omega

theorem yearOfDay_spec (n : Int) :
    daysBeforeYear (yearOfDay n) ≤ n ∧ n < daysBeforeYear (yearOfDay n + 1) := by
  unfold yearOfDay
  dsimp only
  generalize near : 400 * n / 146097 = year
  have before := daysBeforeYear_bounds (year - 1)
  have after := daysBeforeYear_bounds (year + 1 + 1)
  split
  · rw [Int.sub_add_cancel]
    omega
  · split <;> omega

theorem le_yearOfDay_iff {year n : Int} : year ≤ yearOfDay n ↔ daysBeforeYear year ≤ n := by
  obtain ⟨start, stop⟩ := yearOfDay_spec n
  constructor
  · intro h
    exact Int.le_trans (daysBeforeYear_le h) start
  · intro h
    have before := daysBeforeYear_lt_iff.mp (Int.lt_of_le_of_lt h stop)
    omega

theorem yearOfDay_eq {n year : Int} (start : daysBeforeYear year ≤ n)
    (stop : n < daysBeforeYear (year + 1)) : yearOfDay n = year := by
  have notEarlier := le_yearOfDay_iff.mpr start
  have notLater := mt le_yearOfDay_iff.mp (Int.not_le.mpr stop)
  omega

/-! ### Months -/

theorem monthDay_of_lt (month : Nat) {i k : Nat} {lengths : List Nat} (h : i < lengths.length)
    (small : k < lengths[i]) :
    monthDay month ((lengths.take i).sum + k) lengths = (month + i, k + 1) := by
  induction lengths generalizing month i with
  | nil => cases h
  | cons length later ih =>
    cases i with
    | zero =>
      have here : k < length := small
      simp [monthDay, here]
    | succ i =>
      have beyond : ¬length + (later.take i).sum + k < length := by omega
      have rest : length + (later.take i).sum + k - length = (later.take i).sum + k := by omega
      rw [List.take_succ_cons, List.sum_cons, monthDay, if_neg beyond, rest,
        ih (month + 1) (Nat.lt_of_succ_lt_succ h) small, Nat.add_assoc, Nat.add_comm 1]

theorem exists_month {rest : Nat} {lengths : List Nat} (h : rest < lengths.sum) :
    ∃ i k, ∃ inside : i < lengths.length, k < lengths[i] ∧ rest = (lengths.take i).sum + k := by
  induction lengths generalizing rest with
  | nil => cases h
  | cons length later ih =>
    by_cases here : rest < length
    · exact ⟨0, rest, Nat.succ_pos _, here, by simp⟩
    · rw [List.sum_cons] at h
      have less : rest - length < later.sum := by omega
      obtain ⟨i, k, inside, small, same⟩ := ih less
      refine ⟨i + 1, k, Nat.succ_lt_succ inside, small, ?_⟩
      rw [List.take_succ_cons, List.sum_cons]
      omega

theorem sum_take_add_lt {i k : Nat} {lengths : List Nat} (h : i < lengths.length)
    (small : k < lengths[i]) : (lengths.take i).sum + k < lengths.sum := by
  have split := congrArg List.sum (List.take_append_drop i lengths)
  rw [List.drop_eq_getElem_cons h, List.sum_append, List.sum_cons] at split
  omega

theorem daysBeforeMonth_succ (year : Int) (i : Nat) :
    daysBeforeMonth year (i + 1) = ((monthLengths year).take i).sum := by
  rw [daysBeforeMonth, Nat.add_sub_cancel, List.sum_eq_foldl]

theorem sum_take_succ {i : Nat} {lengths : List Nat} (h : i < lengths.length) :
    (lengths.take (i + 1)).sum = (lengths.take i).sum + lengths[i] := by
  rw [List.take_succ_eq_append_getElem h, List.sum_append, List.sum_singleton]

theorem length_monthLengths (year : Int) : (monthLengths year).length = 12 := rfl

theorem bounds_of_mem_monthLengths {year : Int} {length : Nat} (h : length ∈ monthLengths year) :
    28 ≤ length ∧ length ≤ 31 := by
  have all : ∀ length ∈ monthLengths year, 28 ≤ length ∧ length ≤ 31 := by
    unfold monthLengths
    split <;> decide
  exact all length h

theorem daysInMonth_succ {year : Int} {i : Nat} (h : i < (monthLengths year).length) :
    daysInMonth year (i + 1) = (monthLengths year)[i] := by
  rw [daysInMonth, if_neg (Nat.succ_ne_zero i), Nat.add_sub_cancel, List.getD_eq_getElem?_getD,
    List.getElem?_eq_getElem h, Option.getD_some]

theorem daysInMonth_bounds (year : Int) {month : Nat} (first : 1 ≤ month) (last : month ≤ 12) :
    28 ≤ daysInMonth year month ∧ daysInMonth year month ≤ 31 := by
  obtain ⟨i, rfl⟩ : ∃ i, month = i + 1 := ⟨month - 1, by omega⟩
  have inside : i < (monthLengths year).length := last
  rw [daysInMonth_succ inside]
  exact bounds_of_mem_monthLengths (List.getElem_mem inside)

/-- A real date by the numbers of months before it in its year and of days in its month. -/
theorem isReal_iff {d : Date} :
    d.IsReal ↔ ∃ i k, ∃ inside : i < (monthLengths d.year).length,
      k < (monthLengths d.year)[i] ∧ d = ⟨d.year, i + 1, k + 1⟩ := by
  obtain ⟨year, month, day⟩ := d
  unfold IsReal
  dsimp only
  constructor
  · rintro ⟨first, last, one, fits⟩
    obtain ⟨i, rfl⟩ : ∃ i, month = i + 1 := ⟨month - 1, by omega⟩
    obtain ⟨k, rfl⟩ : ∃ k, day = k + 1 := ⟨day - 1, by omega⟩
    have inside : i < (monthLengths year).length := last
    rw [daysInMonth_succ inside] at fits
    exact ⟨i, k, inside, fits, rfl⟩
  · rintro ⟨i, k, inside, small, same⟩
    obtain ⟨-, rfl, rfl⟩ := Date.mk.inj same
    rw [daysInMonth_succ inside]
    exact ⟨Nat.succ_pos i, inside, Nat.succ_pos k, small⟩

theorem dayNumber_eq (year : Int) (i k : Nat) :
    (Date.mk year (i + 1) (k + 1)).dayNumber + epochDay =
      daysBeforeYear year + ((monthLengths year).take i).sum + k := by
  rw [dayNumber, daysBeforeMonth_succ]
  dsimp only
  omega

theorem ofDayNumber_dayNumber {d : Date} (real : d.IsReal) : ofDayNumber d.dayNumber = d := by
  obtain ⟨i, k, inside, small, same⟩ := isReal_iff.mp real
  have within := sum_take_add_lt inside small
  have number := dayNumber_eq d.year i k
  have next := daysBeforeYear_succ d.year
  rw [← same] at number
  have year : yearOfDay (d.dayNumber + epochDay) = d.year := by
    apply yearOfDay_eq <;> omega
  have rest : (d.dayNumber + epochDay - daysBeforeYear d.year).toNat =
      ((monthLengths d.year).take i).sum + k := by omega
  unfold ofDayNumber
  dsimp only
  rw [year, rest, monthDay_of_lt 1 inside small, Nat.add_comm 1]
  exact same.symm

theorem exists_real (n : Int) : ∃ d : Date, d.IsReal ∧ d.dayNumber = n := by
  obtain ⟨start, stop⟩ := yearOfDay_spec (n + epochDay)
  generalize yearOfDay (n + epochDay) = year at start stop
  rw [daysBeforeYear_succ] at stop
  have within : (n + epochDay - daysBeforeYear year).toNat < (monthLengths year).sum := by omega
  obtain ⟨i, k, inside, small, same⟩ := exists_month within
  refine ⟨⟨year, i + 1, k + 1⟩, isReal_iff.mpr ⟨i, k, inside, small, rfl⟩, ?_⟩
  have number := dayNumber_eq year i k
  omega

/-- Every day has one real date. -/
theorem isReal_ofDayNumber (n : Int) : (ofDayNumber n).IsReal := by
  obtain ⟨d, real, rfl⟩ := exists_real n
  rwa [ofDayNumber_dayNumber real]

theorem dayNumber_ofDayNumber (n : Int) : (ofDayNumber n).dayNumber = n := by
  obtain ⟨d, real, rfl⟩ := exists_real n
  rw [ofDayNumber_dayNumber real]

def next (d : Date) : Date :=
  if d.day < daysInMonth d.year d.month then { d with day := d.day + 1 }
  else if d.month < 12 then ⟨d.year, d.month + 1, 1⟩
  else ⟨d.year + 1, 1, 1⟩

theorem dayNumber_epoch : (Date.mk 1970 1 1).dayNumber = 0 := rfl

theorem month_ne_empty {year : Int} {i : Nat} (h : i < (monthLengths year).length) :
    0 < (monthLengths year)[i] := by
  have long := (bounds_of_mem_monthLengths (List.getElem_mem h)).1
  omega

/-- Days are numbered in the order of the calendar. -/
theorem dayNumber_next {d : Date} (real : d.IsReal) :
    d.next.IsReal ∧ d.next.dayNumber = d.dayNumber + 1 := by
  obtain ⟨i, k, inside, small, same⟩ := isReal_iff.mp real
  generalize d.year = year at inside small same
  subst same
  have number := dayNumber_eq year i k
  have month := daysInMonth_succ inside
  have sum := sum_take_succ inside
  unfold next
  dsimp only
  rw [month]
  split
  · next more =>
    have later := dayNumber_eq year i (k + 1)
    exact ⟨isReal_iff.mpr ⟨i, k + 1, inside, more, rfl⟩, by omega⟩
  · next last =>
    have twelve := length_monthLengths year
    split
    · next more =>
      have within : i + 1 < (monthLengths year).length := by omega
      have later : (Date.mk year (i + 1 + 1) 1).dayNumber + epochDay = _ :=
        dayNumber_eq year (i + 1) 0
      exact ⟨isReal_iff.mpr ⟨i + 1, 0, within, month_ne_empty within, rfl⟩, by omega⟩
    · next last =>
      have december : i + 1 = 12 := by omega
      have whole : (monthLengths year).take 12 = monthLengths year := rfl
      have turn := daysBeforeYear_succ year
      have later : (Date.mk (year + 1) 1 1).dayNumber + epochDay = _ :=
        dayNumber_eq (year + 1) 0 0
      have first : 0 < (monthLengths (year + 1)).length := Nat.succ_pos 11
      rw [december, whole] at sum
      rw [List.take_zero, List.sum_nil] at later
      exact ⟨isReal_iff.mpr ⟨0, 0, first, month_ne_empty first, rfl⟩, by omega⟩

end Date

end OrderLookup.Calendar
