import Delego.Wallet.SpendWindow

set_option autoImplicit false

namespace Delego.Wallet.SpendLimits

open Shared Shared.Text Shared.Number Shared.Calendar

/-- The two days lie in one week, from a Monday to the Sunday after it. -/
def SameIsoWeek (day day' : Int) : Prop :=
  ∃ monday, weekDay monday = 1 ∧ (monday ≤ day ∧ day < monday + 7) ∧ monday ≤ day' ∧ day' < monday + 7

theorem sameIsoWeek_iff {day day' : Int} : SameIsoWeek day day' ↔ weekOf day = weekOf day' := by
  constructor
  · intro same
    obtain ⟨monday, first, within, within'⟩ := same
    simp only [weekDay, weekOf] at first ⊢
    omega
  · intro same
    refine ⟨7 * weekOf day - 3, ?_, ?_, ?_⟩
    · simp only [weekDay]
      omega
    · simp only [weekOf]
      omega
    · rw [same]
      simp only [weekOf]
      omega

section Numbers

theorem padStart_wide {width : Nat} {text : String} (wide : width ≤ text.length) : padStart width text = text := by
  rw [← String.toList_inj, padStart, Nat.sub_eq_zero_of_le wide]
  simp

theorem toString_negative {number : Int} (negative : number < 0) :
    padStart 2 (toString number) = toString number ∧ '-' ∈ (toString number).toList := by
  obtain ⟨size, rfl⟩ := Int.eq_negSucc_of_lt_zero negative
  have nonempty : 0 < (Nat.toDigits 10 (size + 1)).length := List.length_pos_iff.mpr Nat.toDigits_ne_nil
  rw [toString_negSucc]
  constructor
  · apply padStart_wide
    rw [String.length_ofList, List.length_cons]
    omega
  · rw [String.toList_ofList]
    exact List.mem_cons_self

theorem padStart_inj {number number' : Int}
    (same : padStart 2 (toString number) = padStart 2 (toString number')) : number = number' := by
  have signless {number : Int} (nonneg : 0 ≤ number) : '-' ∉ (padStart 2 (toString number)).toList := by
    obtain ⟨size, rfl⟩ := Int.eq_ofNat_of_zero_le nonneg
    exact (Written.padded 2 size).clean (by decide)
  by_cases nonneg : 0 ≤ number
  · by_cases nonneg' : 0 ≤ number'
    · obtain ⟨size, rfl⟩ := Int.eq_ofNat_of_zero_le nonneg
      obtain ⟨size', rfl⟩ := Int.eq_ofNat_of_zero_le nonneg'
      exact congrArg Int.ofNat (Written.inj same (.padded 2 size) (.padded 2 size'))
    · obtain ⟨plain, signed⟩ := toString_negative (Int.not_le.mp nonneg')
      rw [← plain, ← same] at signed
      exact absurd signed (signless nonneg)
  · obtain ⟨plain, signed⟩ := toString_negative (Int.not_le.mp nonneg)
    by_cases nonneg' : 0 ≤ number'
    · rw [← plain, same] at signed
      exact absurd signed (signless nonneg')
    · have plain' := (toString_negative (Int.not_le.mp nonneg')).1
      rw [plain, plain'] at same
      have values := congrArg bigInt same
      rw [bigInt_toString, bigInt_toString] at values
      exact Option.some.inj values

end Numbers

section Weeks

variable {date date' : Int}

-- The Thursday of the week of a date, which decides on the year of the week.
def thursdayOf (date : Int) : Int := 7 * weekOf (dayOf date)

-- The year itself may be the one before, and that one may be the year 99.
theorem thursdayOf_year (modern : 100 ≤ yearOf (dayOf date)) : 99 ≤ yearOf (thursdayOf date) := by
  have begun := (yearOf_spec (dayOf date)).1
  have ends := (yearOf_spec (thursdayOf date)).2
  have near : dayOf date - 3 ≤ thursdayOf date := by
    simp only [thursdayOf, weekOf]
    omega
  by_contra early
  have before := dayFromYear_bounds (yearOf (thursdayOf date) + 1)
  have after := dayFromYear_bounds (yearOf (dayOf date))
  omega

def weekNumber (thursday : Int) : Int := (thursday - utc (yearOf thursday) 0 1 + 1 + 6) / 7

theorem getWeeklyKey_eq (userId walletId : String) (modern : 100 ≤ yearOf (dayOf date)) :
    getWeeklyKey userId walletId date = "spend:weekly:" ++ userId ++ ":" ++ walletId ++ ":" ++
      (toString (yearOf (thursdayOf date)) ++ "-W" ++
        padStart 2 (toString (weekNumber (thursdayOf date)))) := by
  have middle : dayOf date + 4 - (if weekDay (dayOf date) = 0 then 7 else weekDay (dayOf date)) =
      thursdayOf date := by
    unfold thursdayOf weekDay weekOf
    split
    · omega
    · omega
  unfold getWeeklyKey
  simp only [utc_date modern, middle, weekNumber]

theorem weekNumber_inj {week week' : Int} (years : yearOf (7 * week) = yearOf (7 * week'))
    (numbers : weekNumber (7 * week) = weekNumber (7 * week')) : week = week' := by
  rw [weekNumber, weekNumber, years] at numbers
  omega

end Weeks

/-- The weekly keys of two dates are one key just when the dates lie in the same week, from Monday to
Sunday. -/
theorem weekly_keys_iso (userId walletId : String) (date date' : Int) (modern : 100 ≤ yearOf (dayOf date))
    (modern' : 100 ≤ yearOf (dayOf date')) :
    getWeeklyKey userId walletId date = getWeeklyKey userId walletId date' ↔
      SameIsoWeek (dayOf date) (dayOf date') := by
  rw [sameIsoWeek_iff, getWeeklyKey_eq userId walletId modern, getWeeklyKey_eq userId walletId modern']
  constructor
  · intro same
    have chars := congrArg String.toList same
    simp only [String.toList_append, List.append_assoc, List.append_cancel_left_eq] at chars
    have yearOnly {date : Int} (modern : 100 ≤ yearOf (dayOf date)) :
        '-' ∉ (toString (yearOf (thursdayOf date))).toList := by
      have positive := thursdayOf_year modern
      obtain ⟨year, years⟩ := Int.eq_ofNat_of_zero_le (show 0 ≤ yearOf (thursdayOf date) by omega)
      rw [years]
      exact (Written.plain year).clean (by decide)
    obtain ⟨years, weeks⟩ := first_separator_inj chars (yearOnly modern) (yearOnly modern')
    have values := congrArg bigInt (String.toList_inj.mp years)
    rw [bigInt_toString, bigInt_toString, Option.some.injEq] at values
    have numbers := padStart_inj (String.toList_inj.mp (List.cons.inj weeks).2)
    exact weekNumber_inj values numbers
  · intro same
    rw [thursdayOf, thursdayOf, same]

-- The last day of a year and the first one of the next.
theorem weekly_keys_iso_across_years :
    getWeeklyKey "ana" "w1" 1767139200000 = getWeeklyKey "ana" "w1" 1767225600000 ↔
      SameIsoWeek (dayOf 1767139200000) (dayOf 1767225600000) :=
  weekly_keys_iso "ana" "w1" 1767139200000 1767225600000 (by decide) (by decide)

end Delego.Wallet.SpendLimits
