import Mathlib.Data.List.GetD
import Mathlib.Data.List.TakeWhile

set_option autoImplicit false

namespace Shared.Calendar

-- Times count milliseconds, and days are counted, from the same day on; it was a Thursday.
def msPerDay : Int := 86400000

def dayOf (time : Int) : Int := time / msPerDay

def weekDay (day : Int) : Int := (day + 4) % 7

-- The number of a week that goes from Monday to Sunday.
def weekOf (day : Int) : Int := (day + 3) / 7

def dayFromYear (year : Int) : Int :=
  365 * (year - 1970) + (year - 1969) / 4 - (year - 1901) / 100 + (year - 1601) / 400

def yearOf (day : Int) : Int :=
  let guess := 1970 + 400 * day / 146097
  if day < dayFromYear guess then guess - 1
  else if dayFromYear (guess + 1) ≤ day then guess + 1
  else guess

def leap (year : Int) : Bool := year % 4 = 0 && (year % 100 ≠ 0 || year % 400 = 0)

def monthStarts (leap : Bool) : List Int :=
  let feb := if leap then 1 else 0
  [ 0, 31, 59 + feb, 90 + feb, 120 + feb, 151 + feb, 181 + feb, 212 + feb, 243 + feb, 273 + feb,
    304 + feb, 334 + feb ]

-- Months count from 0, the days of a month from 1.
def monthOf (day : Int) : Nat :=
  let year := yearOf day
  ((monthStarts (leap year)).takeWhile fun start => start ≤ day - dayFromYear year).length - 1

def dateOf (day : Int) : Int :=
  let year := yearOf day
  day - dayFromYear year - (monthStarts (leap year)).getD (monthOf day) 0 + 1

/-- The day of a date; the years up to 99 are those of the twentieth century. -/
def utc (year : Int) (month : Nat) (date : Int) : Int :=
  let year := if 0 ≤ year ∧ year ≤ 99 then 1900 + year else year
  dayFromYear year + (monthStarts (leap year)).getD month 0 + date - 1

theorem dayFromYear_bounds (year : Int) :
    146097 * (year - 1970) - 800 < 400 * dayFromYear year ∧
      400 * dayFromYear year < 146097 * (year - 1970) + 800 := by
  unfold dayFromYear
  omega

theorem yearOf_spec (day : Int) :
    dayFromYear (yearOf day) ≤ day ∧ day < dayFromYear (yearOf day + 1) := by
  unfold yearOf
  generalize counted : 1970 + 400 * day / 146097 = guess
  have low : 146097 * (guess - 1970) ≤ 400 * day := by omega
  have high : 400 * day < 146097 * (guess - 1969) := by omega
  by_cases before : day < dayFromYear guess
  · simp only [before, if_true, Int.sub_add_cancel, and_true]
    have bounds := dayFromYear_bounds (guess - 1)
    omega
  · by_cases after : dayFromYear (guess + 1) ≤ day
    · simp only [before, after, if_true, if_false, true_and]
      have bounds := dayFromYear_bounds (guess + 1 + 1)
      omega
    · simp only [before, after, if_false]
      omega

theorem yearOf_modern {day : Int} (known : 0 ≤ day) : 100 ≤ yearOf day := by
  have bounds := dayFromYear_bounds (yearOf day + 1)
  have spec := (yearOf_spec day).2
  omega

theorem getD_takeWhile_le (starts : List Int) (rest : Int) (first : starts.head? = some 0)
    (positive : 0 ≤ rest) :
    starts.getD ((starts.takeWhile fun start => start ≤ rest).length - 1) 0 ≤ rest := by
  cases starts with
  | nil => cases first
  | cons start starts =>
    cases first
    generalize taken : (0 :: starts).takeWhile (fun start => decide (start ≤ rest)) = past
    have nonempty : 0 < past.length := by
      rw [← taken, List.takeWhile_cons_of_pos (by simpa using positive)]
      exact Nat.succ_pos _
    have within : past <+: 0 :: starts := taken ▸ List.takeWhile_prefix _
    have begun : ∀ start ∈ past, start ≤ rest := by
      intro start member
      rw [← taken] at member
      simpa using List.mem_takeWhile_imp member
    have last : past.length - 1 < past.length := by omega
    rw [List.getD_eq_getElem _ _ (last.trans_le within.length_le), ← within.getElem last]
    exact begun _ (List.getElem_mem last)

theorem dateOf_pos (day : Int) : 0 < dateOf day := by
  have begun := (yearOf_spec day).1
  have month := getD_takeWhile_le (monthStarts (leap (yearOf day))) (day - dayFromYear (yearOf day)) rfl
    (by omega)
  simp only [dateOf, monthOf]
  omega

theorem utc_date {day : Int} (modern : 100 ≤ yearOf day) :
    utc (yearOf day) (monthOf day) (dateOf day) = day := by
  have late : ¬ (0 ≤ yearOf day ∧ yearOf day ≤ 99) := by omega
  simp only [utc, late, if_false, dateOf]
  omega

end Shared.Calendar
