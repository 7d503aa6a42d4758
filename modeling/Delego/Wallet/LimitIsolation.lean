import Delego.Wallet.SpendLimits

set_option autoImplicit false

namespace Delego.Wallet.SpendLimits

open Shared Shared.Text

/-- What the clock shows when each of the dated keys is made, and when Redis reads the counters. -/
structure CheckTimes where
  daily : Int
  weekly : Int
  reading : Int

def checkSpendLimit (limits : List SpendLimit) (redis : Redis) (times : CheckTimes) (userId walletId : String)
    (delegationId : Option String) (amountStroops : Int) : SpendCheckResult :=
  match findConfig limits userId (some walletId) delegationId with
  | none => allowed
  | some config =>
    match checkPerTransaction config amountStroops with
    | some refusal => refusal
    | none =>
      let dailySpend := redis.spend times.reading (getDailyKey userId walletId times.daily)
      let weeklySpend := redis.spend times.reading (getWeeklyKey userId walletId times.weekly)
      let lifetimeSpend := redis.spend times.reading (getLifetimeKey userId walletId)
      checkCounters config dailySpend weeklySpend lifetimeSpend amountStroops

def rowsOf (limits : List SpendLimit) (userId : String) : List SpendLimit :=
  limits.filter fun row => row.userId = userId

def Exact (userId : String) (walletId delegationId : Option String) (row : SpendLimit) : Prop :=
  row.userId = userId ∧ row.delegationId = truthy delegationId ∧ row.walletId = truthy walletId

instance (userId : String) (walletId delegationId : Option String) (row : SpendLimit) :
    Decidable (Exact userId walletId delegationId row) :=
  inferInstanceAs (Decidable (_ ∧ _ ∧ _))

section Lookup

variable {limits limits' : List SpendLimit} {userId : String} {walletId delegationId : Option String}

theorem find_own (wanted : SpendLimit → Prop) [DecidablePred wanted] :
    (limits.find? fun row => row.userId = userId ∧ wanted row) =
      (rowsOf limits userId).find? fun row => wanted row := by
  simp [rowsOf, List.find?_filter]

theorem findConfig_exact {row : SpendLimit} (member : row ∈ limits)
    (fitting : Exact userId walletId delegationId row) :
    findConfig limits userId walletId delegationId = (rowsOf limits userId).find? fun row =>
      row.delegationId = truthy delegationId ∧ row.walletId = truthy walletId := by
  obtain ⟨owned, wanted⟩ := fitting
  have own : row ∈ rowsOf limits userId := List.mem_filter.mpr ⟨member, by simpa using owned⟩
  have found := List.find?_isSome (p := fun row : SpendLimit =>
    decide (row.delegationId = truthy delegationId ∧ row.walletId = truthy walletId)).mpr
      ⟨row, own, by simpa using wanted⟩
  obtain ⟨config, first⟩ := Option.isSome_iff_exists.mp found
  rw [findConfig, find_own, first]
  rfl

theorem findConfig_general (noWallet : truthy walletId = none) (noDelegation : truthy delegationId = none) :
    findConfig limits userId walletId delegationId =
      ((rowsOf limits userId).find? fun row => row.delegationId = none ∧ row.walletId = none) := by
  simp only [findConfig, noWallet, noDelegation, Option.isSome_none, Bool.false_eq_true, if_false, find_own]
  cases (rowsOf limits userId).find? fun row => row.delegationId = none ∧ row.walletId = none <;> rfl

theorem exact_kept (same : rowsOf limits' userId = rowsOf limits userId) {row : SpendLimit}
    (member : row ∈ limits) (fitting : Exact userId walletId delegationId row) : row ∈ limits' := by
  have own : row ∈ rowsOf limits userId := List.mem_filter.mpr ⟨member, by simpa using fitting.1⟩
  rw [← same] at own
  exact List.mem_of_mem_filter own

/-- A row of somebody else for the same delegation, or else for the same wallet. -/
def foreignRow (userId : String) (walletId delegationId : Option String) (limit : Option Int) : SpendLimit where
  userId := userId ++ "'"
  walletId := truthy walletId
  delegationId := truthy delegationId
  limitPerTransaction := limit
  limitDaily := none
  limitWeekly := none
  limitLifetime := none

theorem foreign_userId (limit : Option Int) :
    (foreignRow userId walletId delegationId limit).userId ≠ userId := by
  intro same
  have longer := congrArg String.length same
  simp [foreignRow] at longer

theorem rowsOf_foreign (limit : Option Int) :
    rowsOf (foreignRow userId walletId delegationId limit :: rowsOf limits userId) userId =
      rowsOf limits userId := by
  rw [rowsOf, List.filter_cons_of_neg (by simpa using foreign_userId limit), rowsOf, List.filter_filter]
  simp

theorem findConfig_foreign (limit : Option Int)
    (none_exact : ∀ row ∈ limits, ¬ Exact userId walletId delegationId row)
    (named : truthy walletId ≠ none ∨ truthy delegationId ≠ none) :
    findConfig (foreignRow userId walletId delegationId limit :: rowsOf limits userId) userId walletId
        delegationId = some (foreignRow userId walletId delegationId limit) := by
  have exact_none : ((rowsOf limits userId).find? fun row =>
      row.delegationId = truthy delegationId ∧ row.walletId = truthy walletId) = none := by
    rw [List.find?_eq_none]
    intro row member wanted
    obtain ⟨inTable, owned⟩ := List.mem_filter.mp member
    exact none_exact row inTable ⟨by simpa using owned, by simpa using wanted⟩
  rw [findConfig, find_own, rowsOf_foreign, exact_none]
  cases delegation : truthy delegationId with
  | some id => simp [foreignRow, delegation]
  | none =>
    obtain ⟨id, wallet⟩ := Option.ne_none_iff_exists'.mp (named.resolve_right (not_not.mpr delegation))
    simp [foreignRow, delegation, wallet]

end Lookup

section Decision

variable {limits : List SpendLimit} {redis : Redis} {times : CheckTimes} {userId walletId : String}
  {delegationId : Option String} {amountStroops : Int}

theorem foreign_refuses
    (taken : findConfig limits userId (some walletId) delegationId =
      some (foreignRow userId (some walletId) delegationId (some (amountStroops - 1)))) :
    (checkSpendLimit limits redis times userId walletId delegationId amountStroops).allowed = false := by
  have less : amountStroops > amountStroops - 1 := by omega
  simp [checkSpendLimit, taken, checkPerTransaction, foreignRow, less]

theorem foreign_allows
    (taken : findConfig limits userId (some walletId) delegationId =
      some (foreignRow userId (some walletId) delegationId none)) :
    (checkSpendLimit limits redis times userId walletId delegationId amountStroops).allowed = true := by
  simp [checkSpendLimit, taken, checkPerTransaction, foreignRow, checkCounters, checkDaily, checkWeekly,
    checkLifetime, checkLimit, allowed]

end Decision

/-- The rows of others do not matter to a decision just when the user has the very row that is asked for
first, or when neither a wallet nor a delegation is asked for. -/
theorem decision_isolated_iff (limits : List SpendLimit) (redis : Redis) (times : CheckTimes)
    (userId walletId : String) (delegationId : Option String) (amountStroops : Int) :
    (∀ limits', rowsOf limits' userId = rowsOf limits userId →
      checkSpendLimit limits' redis times userId walletId delegationId amountStroops =
        checkSpendLimit limits redis times userId walletId delegationId amountStroops) ↔
    (∃ row ∈ limits, Exact userId (some walletId) delegationId row) ∨
      truthy (some walletId) = none ∧ truthy delegationId = none := by
  constructor
  · intro isolated
    by_contra neither
    obtain ⟨noRow, named⟩ := not_or.mp neither
    have none_exact : ∀ row ∈ limits, ¬ Exact userId (some walletId) delegationId row :=
      fun row member fitting => noRow ⟨row, member, fitting⟩
    have taken := fun limit => findConfig_foreign limit none_exact (not_and_or.mp named)
    have refused := @foreign_refuses _ redis times _ _ _ amountStroops (taken _)
    have allowed := @foreign_allows _ redis times _ _ _ amountStroops (taken _)
    rw [isolated _ (rowsOf_foreign _)] at refused allowed
    cases refused.symm.trans allowed
  · intro own limits' same
    have config : findConfig limits' userId (some walletId) delegationId =
        findConfig limits userId (some walletId) delegationId := by
      rcases own with ⟨row, member, fitting⟩ | ⟨noWallet, noDelegation⟩
      · rw [findConfig_exact member fitting, findConfig_exact (exact_kept same member fitting) fitting, same]
      · rw [findConfig_general noWallet noDelegation, findConfig_general noWallet noDelegation, same]
    rw [checkSpendLimit, checkSpendLimit, config]

/-- A row of another user for the same delegation decides, although the user has a row. -/
theorem foreign_row_decides :
    ¬ ∀ (limits limits' : List SpendLimit) (redis : Redis) (times : CheckTimes) (userId walletId : String)
        (delegationId : Option String) (amountStroops : Int),
      rowsOf limits userId = rowsOf limits' userId →
        checkSpendLimit limits redis times userId walletId delegationId amountStroops =
          checkSpendLimit limits' redis times userId walletId delegationId amountStroops := by
  intro isolated
  have same := isolated [⟨"ana", none, none, some 10, none, none, none⟩]
    [⟨"bo", none, "d1", some 1, none, none, none⟩, ⟨"ana", none, none, some 10, none, none, none⟩]
    (fun _ => none) ⟨0, 0, 0⟩ "ana" "w1" "d1" 5 (by decide)
  exact absurd (congrArg SpendCheckResult.allowed same) (by decide +kernel)

end Delego.Wallet.SpendLimits
