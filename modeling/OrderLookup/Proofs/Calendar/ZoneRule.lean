import Mathlib.Data.Option.Basic
import OrderLookup.Calendar.ZoneRule
import OrderLookup.Proofs.Calendar.YearDay

/-!
# What a rule can say

Whatever a rule describes, its changes are on days of the year at times of less than 25 hours, and
its offsets are less than 25 hours too (`proper_of_read?`).
-/

namespace OrderLookup.Calendar.ZoneRule

open OrderLookup.Text

variable {s rest : List Char}

theorem sixtieths_le {n : Nat} (h : sixtieths s = some (n, rest)) : n ≤ 59 := by
  unfold sixtieths at h
  split at h
  · obtain ⟨⟨numeral, s₁⟩, -, h⟩ := Option.bind_eq_some_iff.mp h
    obtain ⟨⟨⟩, small, h⟩ := Option.bind_eq_some_iff.mp h
    obtain ⟨rfl, -⟩ := Prod.mk.inj (Option.some.inj h)
    exact (Option.guard_eq_some' _).mp small
  · obtain ⟨rfl, -⟩ := Prod.mk.inj (Option.some.inj h)
    exact Nat.zero_le _

theorem clock_bounds {t : Int} (h : clock s = some (t, rest)) : 0 ≤ t ∧ t < 90000 := by
  obtain ⟨⟨hours, s₁⟩, -, h⟩ := Option.bind_eq_some_iff.mp h
  obtain ⟨⟨minutes, s₂⟩, minute, h⟩ := Option.bind_eq_some_iff.mp h
  obtain ⟨⟨seconds, s₃⟩, second, h⟩ := Option.bind_eq_some_iff.mp h
  obtain ⟨⟨⟩, small, h⟩ := Option.bind_eq_some_iff.mp h
  obtain ⟨rfl, -⟩ := Prod.mk.inj (Option.some.inj h)
  have hours_le : hours ≤ 24 := (Option.guard_eq_some' _).mp small
  have minutes_le := sixtieths_le minute
  have seconds_le := sixtieths_le second
  omega

theorem signed_bounds {t : Int} (h : signed s = some (t, rest)) : -90000 < t ∧ t < 90000 := by
  unfold signed at h
  split at h
  · obtain ⟨⟨t', s₁⟩, west, h⟩ := Option.map_eq_some_iff.mp h
    obtain ⟨rfl, -⟩ := Prod.mk.inj h
    have bounds := clock_bounds west
    omega
  · have bounds := clock_bounds h
    omega
  · have bounds := clock_bounds h
    omega

theorem yearDay_isProper {day : YearDay} (h : yearDay s = some (day, rest)) : day.IsProper := by
  unfold yearDay at h
  split at h
  · obtain ⟨⟨month, s₁⟩, -, h⟩ := Option.bind_eq_some_iff.mp h
    obtain ⟨s₂, -, h⟩ := Option.bind_eq_some_iff.mp h
    obtain ⟨⟨week, s₃⟩, -, h⟩ := Option.bind_eq_some_iff.mp h
    obtain ⟨s₄, -, h⟩ := Option.bind_eq_some_iff.mp h
    obtain ⟨⟨weekday, s₅⟩, -, h⟩ := Option.bind_eq_some_iff.mp h
    obtain ⟨⟨⟩, within, h⟩ := Option.bind_eq_some_iff.mp h
    obtain ⟨rfl, -⟩ := Prod.mk.inj (Option.some.inj h)
    obtain ⟨january, december, first, last, saturday⟩ := (Option.guard_eq_some' _).mp within
    exact ⟨⟨january, december⟩, ⟨first, last⟩, saturday⟩
  · obtain ⟨⟨number, s₁⟩, -, h⟩ := Option.bind_eq_some_iff.mp h
    obtain ⟨⟨⟩, within, h⟩ := Option.bind_eq_some_iff.mp h
    obtain ⟨rfl, -⟩ := Prod.mk.inj (Option.some.inj h)
    exact (Option.guard_eq_some' _).mp within
  · obtain ⟨⟨days, s₁⟩, -, h⟩ := Option.bind_eq_some_iff.mp h
    obtain ⟨⟨⟩, within, h⟩ := Option.bind_eq_some_iff.mp h
    obtain ⟨rfl, -⟩ := Prod.mk.inj (Option.some.inj h)
    exact (Option.guard_eq_some' _).mp within

theorem yearlyTime_isProper {change : YearlyTime} (h : yearlyTime s = some (change, rest)) :
    change.IsProper := by
  obtain ⟨⟨day, s₁⟩, proper, h⟩ := Option.bind_eq_some_iff.mp h
  dsimp only at h
  split at h
  · obtain ⟨⟨time, s₂⟩, written, h⟩ := Option.bind_eq_some_iff.mp h
    obtain ⟨rfl, -⟩ := Prod.mk.inj (Option.some.inj h)
    exact ⟨yearDay_isProper proper, clock_bounds written⟩
  · obtain ⟨rfl, -⟩ := Prod.mk.inj (Option.some.inj h)
    have two : (0 : Int) ≤ 7200 ∧ (7200 : Int) < 90000 := by decide
    exact ⟨yearDay_isProper proper, two⟩

/-- What a rule says of a zone with summer time. -/
theorem proper_of_read? {rule : String} {z : Seasons} (h : read? rule = some (.seasonal z)) :
    z.summerStart.IsProper ∧ z.summerEnd.IsProper ∧ -90000 < z.standard ∧ z.standard < 90000 := by
  obtain ⟨s₁, -, h⟩ := Option.bind_eq_some_iff.mp h
  obtain ⟨⟨west, s₂⟩, signed, h⟩ := Option.bind_eq_some_iff.mp h
  have bounds := signed_bounds signed
  dsimp only at h
  split at h
  · cases h
  · obtain ⟨s₃, -, h⟩ := Option.bind_eq_some_iff.mp h
    obtain ⟨⟨summerWest, s₄⟩, -, h⟩ := Option.bind_eq_some_iff.mp h
    obtain ⟨s₅, -, h⟩ := Option.bind_eq_some_iff.mp h
    obtain ⟨⟨summerStart, s₆⟩, start, h⟩ := Option.bind_eq_some_iff.mp h
    obtain ⟨s₇, -, h⟩ := Option.bind_eq_some_iff.mp h
    obtain ⟨⟨summerEnd, s₈⟩, finish, h⟩ := Option.bind_eq_some_iff.mp h
    obtain ⟨⟨⟩, -, h⟩ := Option.bind_eq_some_iff.mp h
    obtain rfl := Zone.seasonal.inj (Option.some.inj h)
    refine ⟨yearlyTime_isProper start, yearlyTime_isProper finish, ?_⟩
    dsimp only
    omega

end OrderLookup.Calendar.ZoneRule
