import Delego.Permissions.SpendRules

set_option autoImplicit false

namespace Delego.Permissions

open Shared Soroban

variable {pair : Pair} {env : Env} {deed : Deed} {before after view : View} {turns since : List Turn}
  {grant : Turn} {terms : GrantTerms} {record : PermissionRecord}

def Deed.positiveSpend : Deed → Int
  | .spent amount _ => max amount.toInt 0
  | _ => 0

def positiveSpends : List Turn → Int
  | [] => 0
  | turn :: earlier => turn.deed.positiveSpend + positiveSpends earlier

structure Turn.Nonneg (turn : Turn) : Prop where
  spent : ∀ amount merchant, turn.deed = .spent amount merchant → 0 ≤ amount.toInt
  decreased : turn.deed = .decreased →
    ∀ pending, turn.before.pending = some pending → 0 ≤ pending.amount.toInt

structure Ceiling (since : List Turn) (terms : GrantTerms) (record : PermissionRecord) : Prop where
  lowered : record.limitTotal.toInt ≤ terms.limitTotal.toInt
  nonneg : 0 ≤ record.spent.toInt
  within : record.spent.toInt ≤ record.limitTotal.toInt
  total : record.spent.toInt = positiveSpends since

theorem PairStep.ceiling (step : PairStep pair env deed before after) (plain : deed.isGrant = false)
    (nonneg : Turn.Nonneg ⟨env, deed, before, after⟩) (stored : before.permission = some record)
    (ceiling : Ceiling since terms record) :
    ∃ record, after.permission = some record ∧
      Ceiling (⟨env, deed, before, after⟩ :: since) terms record := by
  obtain ⟨lowered, lower, within, total⟩ := ceiling
  cases step with
  | granted => cases plain
  | queued => exact ⟨record, stored, lowered, lower, within, by simp [positiveSpends, Deed.positiveSpend, total]⟩
  | revoked _ found | paused _ found | resumed _ found =>
    cases found.symm.trans stored
    exact ⟨_, rfl, lowered, lower, within, by simp [positiveSpends, Deed.positiveSpend, total]⟩
  | @spent _ _ amount spent merchant _ found spendable sum =>
    cases found.symm.trans stored
    have positive := nonneg.spent amount merchant rfl
    obtain ⟨remaining, difference, enough⟩ := spendable.total
    refine ⟨_, rfl, lowered, ?_, ?_, ?_⟩
    · dsimp only
      omega
    · dsimp only
      omega
    · simp only [positiveSpends, Deed.positiveSpend]
      omega
  | decreased found queued _ difference covered =>
    cases found.symm.trans stored
    have positive := nonneg.decreased rfl _ queued
    refine ⟨_, rfl, ?_, lower, covered, by simp [positiveSpends, Deed.positiveSpend, total]⟩
    dsimp only
    omega

theorem Follows.ceiling (follows : Follows pair turns view)
    (last : LastMarked Turn.Grants turns since grant) (given : grant.deed = .granted terms)
    (nonneg : ∀ turn ∈ since, turn.Nonneg) :
    ∃ record, view.permission = some record ∧ Ceiling since terms record := by
  induction turns generalizing since view with
  | nil => exact last.not_nil.elim
  | cons turn older ih =>
    obtain ⟨rfl, step, earlier⟩ := follows
    rcases last.cases_cons with ⟨marked, rfl, rfl⟩ | ⟨plain, rest, rfl, tail⟩
    · rcases grant with ⟨env, deed, before, after⟩
      dsimp only at step given
      subst given
      cases step with
      | granted _ limits =>
        refine ⟨_, rfl, Int.le_refl _, Int.le_refl _, ?_, rfl⟩
        simp only [GrantTerms.record, MachineInt.lit_toInt]
        omega
    · obtain ⟨record, stored, ceiling⟩ :=
        ih earlier tail fun turn member => nonneg turn (List.mem_cons_of_mem _ member)
      exact step.ceiling (Turn.plain plain) (nonneg turn (List.mem_cons_self ..)) stored ceiling

/-- Between a grant and the next one, a pair spends at most what the grant allows. -/
def SpendCeiling (inputs : List (Invocation Call)) (pair : Pair) : Prop :=
  ∀ since grant terms, LastMarked Turn.Grants (turnsOf pair (history inputs)) since grant →
    grant.deed = .granted terms →
      ∃ record, (final inputs).permission pair = some record ∧ 0 ≤ record.spent.toInt ∧
        record.spent.toInt ≤ record.limitTotal.toInt ∧
        positiveSpends since ≤ terms.limitTotal.toInt

/-- The ceiling holds in every run that since its latest grant neither spends a negative amount
nor takes a negative amount off the limit. -/
theorem spendCeiling_of_nonneg (inputs : List (Invocation Call)) (pair : Pair)
    (nonneg : ∀ since grant, LastMarked Turn.Grants (turnsOf pair (history inputs)) since grant →
      ∀ turn ∈ since, turn.Nonneg) : SpendCeiling inputs pair := by
  intro since grant terms last given
  obtain ⟨record, stored, ceiling⟩ :=
    (history_follows pair inputs).ceiling last given (nonneg since grant last)
  have within := ceiling.within
  have lowered := ceiling.lowered
  have total := ceiling.total
  exact ⟨record, stored, ceiling.nonneg, within, by omega⟩

theorem spendCeiling_of_nonneg_sample : SpendCeiling
    [sampleSpend (.lit 12) (.lit 520) (.lit 40),
      sampleGrant (.lit 10) (.lit 500) (.lit 100) (.lit 60)] samplePair := by
  apply spendCeiling_of_nonneg
  intro since grant last turn member
  have among := List.mem_map_of_mem (f := Turn.deed) (last.mem member)
  change turn.deed ∈ [.spent (.lit 40) (.sample 3), .granted _] at among
  simp only [List.mem_cons, List.not_mem_nil, or_false] at among
  rcases among with spent | granted
  · refine ⟨fun amount merchant same => ?_, fun lowered => by cases spent.symm.trans lowered⟩
    cases spent.symm.trans same
    decide
  · refine ⟨fun amount merchant same => ?_, fun lowered => by cases granted.symm.trans lowered⟩
    cases granted.symm.trans same

-- A refund in disguise: a negative spend makes room for spending the whole limit once more.
def negativeSpend : List (Invocation Call) :=
  [ sampleSpend (.lit 14) (.lit 540) (.lit 100),
    sampleSpend (.lit 13) (.lit 530) (.lit 100),
    sampleSpend (.lit 12) (.lit 520) (.lit (-100)),
    sampleGrant (.lit 10) (.lit 500) (.lit 100) (.lit 100) ]

theorem negativeSpend_breaks_ceiling : ¬ ∀ inputs pair, SpendCeiling inputs pair := by
  intro every
  have last : LastMarked Turn.Grants (turnsOf samplePair (history negativeSpend)) _ _ :=
    .cons (.cons (.cons (.here rfl) (by decide)) (by decide)) (by decide)
  obtain ⟨_, _, _, _, within⟩ := every negativeSpend samplePair _ _ _ last rfl
  revert within
  decide

end Delego.Permissions
