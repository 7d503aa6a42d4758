import Delego.Shared.Pieces
import Delego.Wallet.SpendLimits

set_option autoImplicit false

namespace Delego.Wallet.SpendLimits

open Shared Shared.Text Shared.Calendar

/-- A kind of counters: the key of a counter at a time, the number of the span of time that it counts,
and how many seconds it is kept. -/
structure Window where
  key : String → String → Nat → String
  span : Nat → Int
  ttl : Option Int

structure Window.Lawful (window : Window) : Prop where
  same : ∀ {userId walletId : String} {time time' : Nat}, window.span time = window.span time' →
    window.key userId walletId time = window.key userId walletId time'
  apart : ∀ {userId walletId userId' walletId' : String} {time time' : Nat},
    window.key userId walletId time = window.key userId' walletId' time' →
      window.span time = window.span time'
  forward : ∀ {time time' : Nat}, time ≤ time' → window.span time ≤ window.span time'
  lasting : ∀ ttl ∈ window.ttl, ∀ {time time' : Nat}, window.span time = window.span time' →
    (time' : Int) < time + 1000 * ttl

def daily : Window where
  key userId walletId now := getDailyKey userId walletId now
  span now := dayOf now
  ttl := dailyTtl

def weekly : Window where
  key userId walletId now := getWeeklyKey userId walletId now
  span now := weekOf (dayOf now)
  ttl := weeklyTtl

def lifetime : Window where
  key userId walletId _ := getLifetimeKey userId walletId
  span _ := 0
  ttl := none

-- A number as it is written, perhaps after some zeros.
def Written (text : String) (number : Nat) : Prop :=
  ∃ zeros, text.toList = List.replicate zeros '0' ++ Nat.toDigits 10 number

theorem Written.plain (number : Nat) : Written (toString (number : Int)) number := ⟨0, Nat.toList_repr⟩

theorem Written.padded (width number : Nat) : Written (padStart width (toString (number : Int))) number := by
  refine ⟨width - (toString (number : Int)).length, ?_⟩
  rw [padStart, String.toList_append, String.toList_ofList]
  congr 1
  exact Nat.toList_repr

theorem Written.inj {text text' : String} {number number' : Nat} (same : text = text')
    (written : Written text number) (written' : Written text' number') : number = number' := by
  obtain ⟨zeros, chars⟩ := written
  obtain ⟨zeros', chars'⟩ := written'
  have digits := chars.symm.trans ((congrArg String.toList same).trans chars')
  have values := congrArg (fun chars => Nat.ofDigitChars 10 chars 0) digits
  simpa [Nat.ofDigitChars_append, Nat.ofDigitChars_replicate_zero] using values

theorem Written.clean {text : String} {number : Nat} (written : Written text number) {c : Char}
    (other : c.isDigit = false) : c ∉ text.toList := by
  obtain ⟨zeros, chars⟩ := written
  rw [chars, List.mem_append]
  rintro (zero | digit)
  · rw [List.eq_of_mem_replicate zero] at other
    cases other
  · rw [Nat.isDigit_of_mem_toDigits (by decide) (by decide) digit] at other
    cases other

theorem cut_inj {text head head' tail tail' : String} {separator : Char}
    (single : text.toList = [separator]) (same : head ++ text ++ tail = head' ++ text ++ tail')
    (clean : separator ∉ tail.toList) (clean' : separator ∉ tail'.toList) :
    head = head' ∧ tail = tail' := by
  have chars := congrArg String.toList same
  simp only [String.toList_append, single, List.append_assoc, List.singleton_append] at chars
  obtain ⟨before, after⟩ := last_separator_inj chars clean clean'
  exact ⟨String.toList_inj.mp before, String.toList_inj.mp after⟩

def dateText (year month date : Nat) : String :=
  toString (year : Int) ++ "-" ++ padStart 2 (toString (month : Int)) ++ "-" ++
    padStart 2 (toString (date : Int))

theorem dateText_clean (year month date : Nat) : ':' ∉ (dateText year month date).toList := by
  have year := (Written.plain year).clean (show ':'.isDigit = false by decide)
  have month := (Written.padded 2 month).clean (show ':'.isDigit = false by decide)
  have date := (Written.padded 2 date).clean (show ':'.isDigit = false by decide)
  simp only [dateText, String.toList_append, List.mem_append, not_or]
  exact ⟨⟨⟨⟨year, by decide⟩, month⟩, by decide⟩, date⟩

theorem dateText_inj {year month date year' month' date' : Nat}
    (same : dateText year month date = dateText year' month' date') :
    year = year' ∧ month = month' ∧ date = date' := by
  have dash : '-'.isDigit = false := by decide
  obtain ⟨front, dates⟩ := cut_inj rfl same ((Written.padded 2 date).clean dash)
    ((Written.padded 2 date').clean dash)
  obtain ⟨years, months⟩ := cut_inj rfl front ((Written.padded 2 month).clean dash)
    ((Written.padded 2 month').clean dash)
  exact ⟨Written.inj years (.plain year) (.plain year'),
    Written.inj months (.padded 2 month) (.padded 2 month'),
    Written.inj dates (.padded 2 date) (.padded 2 date')⟩

theorem dayOf_nonneg (time : Nat) : 0 ≤ dayOf time := by
  unfold dayOf msPerDay
  omega

theorem dateText_day (time : Nat) : ∃ year date : Nat, yearOf (dayOf time) = year ∧
    dateOf (dayOf time) = date ∧ ∀ userId walletId, daily.key userId walletId time =
      "spend:daily:" ++ userId ++ ":" ++ walletId ++ ":" ++
        dateText year (monthOf (dayOf time) + 1) date := by
  have modern := yearOf_modern (dayOf_nonneg time)
  have positive := dateOf_pos (dayOf time)
  have year : yearOf (dayOf time) = (yearOf (dayOf time)).toNat := by omega
  have date : dateOf (dayOf time) = (dateOf (dayOf time)).toNat := by omega
  refine ⟨_, _, year, date, ?_⟩
  intro userId walletId
  dsimp only [daily, getDailyKey, dateText]
  simp only [← year, ← date, Nat.cast_succ]

theorem daily_lawful : daily.Lawful where
  same := by
    intro userId walletId time time' span
    dsimp only [daily, getDailyKey] at span ⊢
    rw [span]
  apart := by
    intro userId walletId userId' walletId' time time' same
    obtain ⟨year, date, years, dates, key⟩ := dateText_day time
    obtain ⟨year', date', years', dates', key'⟩ := dateText_day time'
    rw [key, key'] at same
    obtain ⟨_, same⟩ := cut_inj rfl same (dateText_clean _ _ _) (dateText_clean _ _ _)
    obtain ⟨sameYear, sameMonth, sameDate⟩ := dateText_inj same
    have modern := yearOf_modern (dayOf_nonneg time)
    have modern' := yearOf_modern (dayOf_nonneg time')
    calc daily.span time
      _ = utc year (monthOf (dayOf time)) date := by rw [← years, ← dates, utc_date modern]; rfl
      _ = utc year' (monthOf (dayOf time')) date' := by
          rw [sameYear, sameDate, Nat.succ_injective sameMonth]
      _ = daily.span time' := by rw [← years', ← dates', utc_date modern']; rfl
  forward := by
    intro time time' later
    simp only [daily, dayOf, msPerDay]
    omega
  lasting := by
    intro ttl kept time time' span
    cases kept
    simp only [daily, dayOf, msPerDay] at span
    simp only [dailyTtl]
    omega

def weekText (year week : Nat) : String :=
  toString (year : Int) ++ "-" ++ ("W" ++ padStart 2 (toString (week : Int)))

theorem weekText_clean {c : Char} (year week : Nat) (other : c.isDigit = false) (dash : c ≠ '-')
    (letter : c ≠ 'W') : c ∉ (weekText year week).toList := by
  have year := (Written.plain year).clean other
  have week := (Written.padded 2 week).clean other
  have separator : "-".toList = ['-'] := rfl
  have mark : "W".toList = ['W'] := rfl
  simp only [weekText, String.toList_append, separator, mark, List.mem_append, List.mem_singleton,
    not_or]
  exact ⟨⟨year, dash⟩, letter, week⟩

theorem weekText_inj {year week year' week' : Nat} (same : weekText year week = weekText year' week') :
    year = year' ∧ week = week' := by
  have clean (week : Nat) : '-' ∉ ("W" ++ padStart 2 (toString (week : Int))).toList := by
    have mark : "W".toList = ['W'] := rfl
    have digits := (Written.padded 2 week).clean (show '-'.isDigit = false by decide)
    rw [String.toList_append, mark, List.mem_append, List.mem_singleton, not_or]
    exact ⟨by decide, digits⟩
  obtain ⟨years, weeks⟩ := cut_inj rfl same (clean week) (clean week')
  have chars := congrArg String.toList weeks
  rw [String.toList_append, String.toList_append] at chars
  have digits := String.toList_inj.mp (List.append_cancel_left chars)
  exact ⟨Written.inj years (.plain year) (.plain year'),
    Written.inj digits (.padded 2 week) (.padded 2 week')⟩

def thursday (time : Nat) : Int := 7 * weekOf (dayOf time)

theorem thursday_nonneg (time : Nat) : 0 ≤ thursday time := by
  have day := dayOf_nonneg time
  unfold thursday weekOf
  omega

theorem weekText_day (time : Nat) : ∃ year week : Nat, yearOf (thursday time) = year ∧
    (thursday time - dayFromYear year + 7) / 7 = week ∧ ∀ userId walletId,
      weekly.key userId walletId time =
        "spend:weekly:" ++ userId ++ ":" ++ walletId ++ ":" ++ weekText year week := by
  have modern := yearOf_modern (thursday_nonneg time)
  have begun := (yearOf_spec (thursday time)).1
  obtain ⟨year, years⟩ : ∃ year : Nat, yearOf (thursday time) = year :=
    ⟨(yearOf (thursday time)).toNat, by omega⟩
  rw [years] at modern begun
  obtain ⟨week, weeks⟩ : ∃ week : Nat, (thursday time - dayFromYear year + 7) / 7 = week :=
    ⟨((thursday time - dayFromYear year + 7) / 7).toNat, by omega⟩
  refine ⟨year, week, years, weeks, ?_⟩
  intro userId walletId
  have middle : dayOf time + 4 - (if weekDay (dayOf time) = 0 then 7 else weekDay (dayOf time)) =
      thursday time := by
    unfold thursday weekDay weekOf
    split
    · omega
    · omega
  have start : utc year 0 1 = dayFromYear year := by
    have late : ¬ (0 ≤ (year : Int) ∧ (year : Int) ≤ 99) := by omega
    simp only [utc, late, if_false, monthStarts, List.getD_cons_zero]
    omega
  have number : thursday time - dayFromYear year + 1 + 6 = thursday time - dayFromYear year + 7 := by omega
  have dash (text : String) : toString (year : Int) ++ "-" ++ ("W" ++ text) =
      toString (year : Int) ++ "-W" ++ text := by
    rw [← String.append_assoc]
    congr 1
    exact String.append_assoc
  dsimp only [weekly, getWeeklyKey]
  simp only [utc_date (yearOf_modern (dayOf_nonneg time)), middle, years, start, number, weeks, weekText,
    dash]

theorem weekly_lawful : weekly.Lawful where
  same := by
    intro userId walletId time time' span
    obtain ⟨year, week, years, weeks, key⟩ := weekText_day time
    obtain ⟨year', week', years', weeks', key'⟩ := weekText_day time'
    have middle : thursday time = thursday time' := congrArg (7 * ·) span
    rw [← middle] at years' weeks'
    obtain rfl := Int.ofNat_inj.mp (years.symm.trans years')
    obtain rfl := Int.ofNat_inj.mp (weeks.symm.trans weeks')
    rw [key, key']
  apart := by
    intro userId walletId userId' walletId' time time' same
    obtain ⟨year, week, years, weeks, key⟩ := weekText_day time
    obtain ⟨year', week', years', weeks', key'⟩ := weekText_day time'
    rw [key, key'] at same
    have clean (year week : Nat) : ':' ∉ (weekText year week).toList :=
      weekText_clean year week (by decide) (by decide) (by decide)
    obtain ⟨_, same⟩ := cut_inj rfl same (clean _ _) (clean _ _)
    obtain ⟨rfl, rfl⟩ := weekText_inj same
    -- The two Thursdays lie in the same seven days of the same year.
    simp only [thursday] at weeks weeks'
    simp only [weekly]
    omega
  forward := by
    intro time time' later
    simp only [weekly, weekOf, dayOf, msPerDay]
    omega
  lasting := by
    intro ttl kept time time' span
    cases kept
    simp only [weekly, weekOf, dayOf, msPerDay] at span
    simp only [weeklyTtl]
    omega

theorem lifetime_lawful : lifetime.Lawful where
  same _ := rfl
  apart _ := rfl
  forward _ := le_rfl
  lasting _ kept := by cases kept

end Delego.Wallet.SpendLimits
