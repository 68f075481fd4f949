import OrderLookup.Calendar.Timestamp
import OrderLookup.Proofs.Calendar.Display
import OrderLookup.Proofs.Text.Trim

/-!
# Timestamps without an offset

A text of the usual form, with numerals of full width, is read as the fields that it gives, by the
clock of the zone (`read?_isoSecond`, `read?_isoMinute`).
-/

namespace OrderLookup

open Text

namespace Text

theorem trimStart_padded (width n : Nat) (rest : List Char) :
    trimStart (Decimal.padded (width + 1) n ++ rest) = Decimal.padded (width + 1) n ++ rest := by
  obtain ⟨c, digits, numeral, digit⟩ := Decimal.exists_padded_eq_cons width n
  apply trimStart_eq_self
  rw [numeral]
  rintro _ ⟨⟩
  exact isBlank_of_isDigit digit

theorem after?_cons (c : Char) (s : List Char) : after? c (c :: s) = some s :=
  if_pos rfl

theorem isEmpty_ofList {s : List Char} (filled : s ≠ []) : (String.ofList s).isEmpty = false := by
  rw [Bool.eq_false_iff, ne_eq, String.isEmpty_iff, ← String.toList_inj, String.toList_ofList]
  exact filled

end Text

namespace Calendar

namespace Fields

def Fits (f : Fields) : Prop :=
  0 ≤ f.date.year ∧ f.date.year ≤ 9999 ∧ f.IsShort

def isoDate (f : Fields) : List Char :=
  Decimal.padded 4 f.date.year.toNat ++ '-' :: Decimal.padded 2 f.date.month ++
    '-' :: Decimal.padded 2 f.date.day

def isoMinute (f : Fields) : List Char :=
  f.isoDate ++ 'T' :: Decimal.padded 2 f.hour ++ ':' :: Decimal.padded 2 f.minute

def isoSecond (f : Fields) : List Char :=
  f.isoMinute ++ ':' :: Decimal.padded 2 f.second

theorem isoDate_append (f : Fields) (rest : List Char) :
    f.isoDate ++ rest =
      Decimal.padded 4 f.date.year.toNat ++ '-' :: (Decimal.padded 2 f.date.month ++
        '-' :: (Decimal.padded 2 f.date.day ++ rest)) := by
  simp [isoDate]

theorem isoMinute_append (f : Fields) (rest : List Char) :
    f.isoMinute ++ rest =
      f.isoDate ++ 'T' :: (Decimal.padded 2 f.hour ++ ':' :: (Decimal.padded 2 f.minute ++ rest)) := by
  simp [isoMinute]

theorem isoSecond_append (f : Fields) (rest : List Char) :
    f.isoSecond ++ rest = f.isoMinute ++ ':' :: (Decimal.padded 2 f.second ++ rest) := by
  simp [isoSecond]

end Fields

inductive FractionText : List Char → Prop
  | whole : FractionText []
  | parts {count : Nat} {digits : List Char} (numeral : Decimal.Digits (count + 1) digits) :
    FractionText ('.' :: digits)

namespace Timestamp

variable {f : Fields} {rest : List Char}

theorem fraction_append {parts : List Char} (fractional : FractionText parts)
    (noPoint : rest.head? ≠ some '.')
    (stops : ∀ c ∈ rest.head?, Decimal.isDigit c = false) :
    fraction (parts ++ rest) = some rest := by
  cases fractional with
  | whole =>
    rw [List.nil_append]
    unfold fraction
    split
    · exact absurd rfl noPoint
    · rfl
  | parts numeral =>
    rw [List.cons_append, fraction, Decimal.run_append numeral stops]
    rfl

theorem fraction_self {parts : List Char} (fractional : FractionText parts) :
    fraction parts = some [] := by
  have noStop : ∀ c ∈ ([] : List Char).head?, Decimal.isDigit c = false := by
    rintro _ ⟨⟩
  have read := fraction_append fractional (by decide) noStop
  rwa [List.append_nil] at read

theorem bind_of_eq {α β : Type} {x : Option α} {a : α} (h : x = some a) (next : α → Option β) :
    (x >>= next) = next a := by
  rw [h]
  rfl

theorem exactly_two {n : Nat} (small : n < 100) (rest : List Char) :
    Decimal.exactly 2 (Decimal.padded 2 n ++ rest) = some (n, rest) :=
  Decimal.exactly_padded small rest

theorem exactly_two_last {n : Nat} (small : n < 100) :
    Decimal.exactly 2 (Decimal.padded 2 n) = some (n, []) := by
  have read := exactly_two small []
  rwa [List.append_nil] at read

theorem exactly_four {n : Nat} (small : n < 10000) (rest : List Char) :
    Decimal.exactly 4 (Decimal.padded 4 n ++ rest) = some (n, rest) :=
  Decimal.exactly_padded small rest

theorem short_padded {n : Nat} (small : n < 100) (rest : List Char) :
    short (Decimal.padded 2 n ++ rest) = some (n, rest) := by
  rw [short, trimStart_padded 1 n rest]
  exact Decimal.upTo_padded small rest

theorem year_padded {n : Nat} (small : n < 10000) (rest : List Char) :
    year (Decimal.padded 4 n ++ rest) = some ((n : Int), rest) := by
  obtain ⟨c, digits, numeral, digit⟩ := Decimal.exists_padded_eq_cons 3 n
  have whole : Decimal.upTo 4 (Decimal.padded 4 n ++ rest) = some (n, rest) :=
    Decimal.upTo_padded small rest
  have noSign {sign : Char} {s : List Char} (h : Decimal.padded 4 n ++ rest = sign :: s) :
      Decimal.isDigit sign = true := by
    rw [numeral] at h
    rwa [← (List.cons.inj h).1]
  unfold year
  rw [trimStart_padded 3 n rest]
  split
  · next h => exact absurd (noSign h) (by decide)
  · next h => exact absurd (noSign h) (by decide)
  · rw [whole]
    rfl

theorem date_iso (fits : f.Fits) (rest : List Char) :
    date (f.isoDate ++ rest) = some (f.date, rest) := by
  obtain ⟨positive, small, day, month, -⟩ := fits
  have year : f.date.year.toNat < 10000 := by omega
  have same : (f.date.year.toNat : Int) = f.date.year := Int.toNat_of_nonneg positive
  rw [Fields.isoDate_append, date]
  refine (bind_of_eq (year_padded year _) _).trans ?_
  refine (bind_of_eq (after?_cons _ _) _).trans ?_
  refine (bind_of_eq (short_padded month _) _).trans ?_
  refine (bind_of_eq (after?_cons _ _) _).trans ?_
  refine (bind_of_eq (short_padded day _) _).trans ?_
  rw [same]
  rfl

theorem dateMinute_iso (fits : f.Fits) (rest : List Char) :
    dateMinute (f.isoMinute ++ rest) = some ((f.date, f.hour, f.minute), rest) := by
  have ⟨_, _, _, _, hour, minute, _⟩ := fits
  rw [Fields.isoMinute_append, dateMinute]
  refine (bind_of_eq (date_iso fits _) _).trans ?_
  refine (bind_of_eq (after?_cons _ _) _).trans ?_
  refine (bind_of_eq (short_padded hour _) _).trans ?_
  refine (bind_of_eq (after?_cons _ _) _).trans ?_
  exact bind_of_eq (short_padded minute _) _

theorem toSecond_iso (fits : f.Fits) (ends : fraction rest = some []) :
    toSecond (f.isoSecond ++ rest) = f.reading? := by
  have ⟨_, _, _, _, _, _, second⟩ := fits
  rw [Fields.isoSecond_append, toSecond]
  refine (bind_of_eq (dateMinute_iso fits _) _).trans ?_
  refine (bind_of_eq (after?_cons _ _) _).trans ?_
  refine (bind_of_eq (short_padded second _) _).trans ?_
  exact bind_of_eq ends _

theorem toMinute_iso (fits : f.Fits) :
    toMinute f.isoMinute = Fields.reading? { f with second := 0 } := by
  have read := dateMinute_iso fits []
  rw [List.append_nil] at read
  rw [toMinute, read]
  rfl

theorem toSecond_isoMinute (fits : f.Fits) : toSecond f.isoMinute = none := by
  have read := dateMinute_iso fits []
  rw [List.append_nil] at read
  rw [toSecond, read]
  rfl

theorem toMinute_isoSecond (fits : f.Fits) (rest : List Char) :
    toMinute (f.isoSecond ++ rest) = none := by
  rw [Fields.isoSecond_append, toMinute, dateMinute_iso fits]
  rfl

theorem plainDate_isoMinute (fits : f.Fits) (rest : List Char) :
    plainDate (f.isoMinute ++ rest) = none := by
  rw [Fields.isoMinute_append, plainDate, date_iso fits]
  rfl

theorem afterDate_cons (s : List Char) :
    (after? 'T' ('T' :: s) <|> after? 't' ('T' :: s) <|> after? ' ' ('T' :: s)) = some s :=
  rfl

/-- The strict form reads as far as the minute, too, and needs an offset. -/
theorem withOffset_isoMinute_append (fits : f.Fits) (rest : List Char) :
    withOffset (f.isoMinute ++ rest) = (do
      let s ← after? ':' rest
      let (second, s) ← Decimal.exactly 2 s
      let s ← fraction s
      let (east, s) ← offset s
      guard s.isEmpty
      let reading ← Fields.reading? ⟨f.date, f.hour, f.minute, second⟩
      return ⟨reading.seconds - east, reading.leap⟩) := by
  have ⟨positive, small, day, month, hour, minute, _⟩ := fits
  have year : f.date.year.toNat < 10000 := by omega
  have same : (f.date.year.toNat : Int) = f.date.year := Int.toNat_of_nonneg positive
  rw [Fields.isoMinute_append, Fields.isoDate_append, withOffset]
  refine (bind_of_eq (exactly_four year _) _).trans ?_
  refine (bind_of_eq (after?_cons _ _) _).trans ?_
  refine (bind_of_eq (exactly_two month _) _).trans ?_
  refine (bind_of_eq (after?_cons _ _) _).trans ?_
  refine (bind_of_eq (exactly_two day _) _).trans ?_
  refine (bind_of_eq (afterDate_cons _) _).trans ?_
  refine (bind_of_eq (exactly_two hour _) _).trans ?_
  refine (bind_of_eq (after?_cons _ _) _).trans ?_
  refine (bind_of_eq (exactly_two minute _) _).trans ?_
  rw [same]

theorem withOffset_isoMinute (fits : f.Fits) : withOffset f.isoMinute = none := by
  have read := withOffset_isoMinute_append fits []
  rw [List.append_nil] at read
  rw [read]
  rfl

theorem withOffset_isoSecond (fits : f.Fits) (ends : fraction rest = some []) :
    withOffset (f.isoSecond ++ rest) = none := by
  have ⟨_, _, _, _, _, _, second⟩ := fits
  rw [Fields.isoSecond_append, withOffset_isoMinute_append fits]
  refine (bind_of_eq (after?_cons _ _) _).trans ?_
  refine (bind_of_eq (exactly_two second _) _).trans ?_
  exact bind_of_eq ends _

theorem read?_isoSecond (zone : Zone) (fits : f.Fits) (ends : fraction rest = some []) :
    read? zone (f.isoSecond ++ rest) = f.reading?.bind zone.moment? := by
  unfold read?
  rw [withOffset_isoSecond fits ends, toSecond_iso fits ends, toMinute_isoSecond fits,
    Fields.isoSecond_append, plainDate_isoMinute fits]
  cases f.reading? <;> rfl

theorem read?_isoMinute (zone : Zone) (fits : f.Fits) :
    read? zone f.isoMinute = (Fields.reading? { f with second := 0 }).bind zone.moment? := by
  have plain := plainDate_isoMinute fits []
  rw [List.append_nil] at plain
  unfold read?
  rw [withOffset_isoMinute fits, toSecond_isoMinute fits, toMinute_iso fits, plain]
  cases Fields.reading? { f with second := 0 } <;> rfl

end Timestamp

end Calendar

end OrderLookup
