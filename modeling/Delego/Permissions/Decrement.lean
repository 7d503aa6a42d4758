import Delego.Permissions.Step

set_option autoImplicit false

namespace Delego.Permissions

open Shared Soroban

variable {pair : Pair} {env : Env} {deed : Deed} {before after view : View} {turns : List Turn}
  {decrement : PendingAllowanceDecrement}

def Turn.Queues (turn : Turn) : Prop := ∃ amount, turn.deed = .queued amount

/-- The turn that queued what is pending, and that it has been pending ever since. -/
structure QueuedBy (turns mid : List Turn) (queue : Turn) (pending : PendingAllowanceDecrement) :
    Prop where
  last : LastMarked Turn.Queues turns mid queue
  amount : queue.deed = .queued pending.amount
  delay : pending.executionTime.toInt = queue.env.timestamp.toInt + 86400
  waiting : ∀ turn ∈ mid, turn.before.pending = some pending

theorem PairStep.source (step : PairStep pair env deed before after)
    (waiting : after.pending = some decrement) :
    (deed = .queued decrement.amount ∧ decrement.executionTime.toInt = env.timestamp.toInt + 86400) ∨
      ((∀ amount, deed ≠ .queued amount) ∧ before.pending = some decrement) := by
  cases step with
  | granted | spent | paused | resumed => exact .inr ⟨by simp, waiting⟩
  | revoked | decreased => cases waiting
  | queued _ _ _ delay =>
    cases waiting
    exact .inl ⟨rfl, delay⟩

theorem Follows.queuedBy (follows : Follows pair turns view) (waiting : view.pending = some decrement) :
    ∃ mid queue, QueuedBy turns mid queue decrement := by
  induction turns generalizing view with
  | nil =>
    subst follows
    cases waiting
  | cons turn older ih =>
    obtain ⟨rfl, step, earlier⟩ := follows
    -- Either the newest turn queued what is pending, or it left an older entry waiting.
    rcases step.source waiting with ⟨queued, delay⟩ | ⟨unqueued, waiting⟩
    · exact ⟨[], turn, .here ⟨_, queued⟩, queued, delay, by simp⟩
    · obtain ⟨mid, queue, last, amount, delay, still⟩ := ih earlier waiting
      refine ⟨turn :: mid, queue, last.cons ?_, amount, delay, ?_⟩
      · intro queues
        obtain ⟨amount, queued⟩ := queues
        exact unqueued amount queued
      · intro other member
        cases member with
        | head => exact waiting
        | tail _ member => exact still other member

theorem PairStep.applied (step : PairStep pair env .decreased before after) :
    ∃ record pending newLimit, before.permission = some record ∧ before.pending = some pending ∧
      after.permission = some { record with limitTotal := newLimit } ∧
      newLimit.toInt = record.limitTotal.toInt - pending.amount.toInt ∧
      record.spent.toInt ≤ newLimit.toInt ∧
      pending.executionTime.toInt ≤ env.timestamp.toInt := by
  cases step with
  | decreased found queued elapsed difference covered =>
    exact ⟨_, _, _, found, queued, rfl, difference, covered, elapsed⟩

/-- A decrease is only ever applied under the grant that it was queued under. -/
def DecreaseBelongs (inputs : List (Invocation Call)) (pair : Pair) : Prop :=
  ∀ newer execution older, turnsOf pair (history inputs) = newer ++ execution :: older →
    execution.deed = .decreased →
      ∃ mid queue pending, execution.before.pending = some pending ∧
        QueuedBy older mid queue pending ∧ ∀ turn ∈ mid, ¬ turn.Grants

def Turn.GrantsUnencumbered (turn : Turn) : Prop := turn.Grants → turn.before.pending = none

/-- Every decrease belongs to its grant in a run that never grants over a pending decrease. -/
theorem decreaseBelongs_of_unencumbered (inputs : List (Invocation Call)) (pair : Pair)
    (unencumbered : ∀ turn ∈ turnsOf pair (history inputs), turn.GrantsUnencumbered) :
    DecreaseBelongs inputs pair := by
  intro newer execution older cut executed
  obtain ⟨follows, step⟩ := (history_follows pair inputs).before cut
  rw [executed] at step
  obtain ⟨_, pending, _, _, waiting, _⟩ := step.applied
  obtain ⟨mid, queue, queued⟩ := follows.queuedBy waiting
  refine ⟨mid, queue, pending, waiting, queued, fun turn member grants => ?_⟩
  have among : turn ∈ turnsOf pair (history inputs) := by
    rw [cut]
    exact List.mem_append_right _ (List.mem_cons_of_mem _ (queued.last.mem member))
  cases (unencumbered turn among grants).symm.trans (queued.waiting turn member)

def oldDecrease : List (Invocation Call) :=
  [ ⟨{ sequence := .lit 40, timestamp := .lit 90000, signers := [] },
      .executeDecreaseAllowance samplePair.1 samplePair.2⟩,
    sampleGrant (.lit 12) (.lit 520) (.lit 100) (.lit 60),
    ownerCall (.lit 11) (.lit 510)
      (.decreaseAllowance samplePair.1 samplePair.2 (.lit 70)),
    sampleGrant (.lit 10) (.lit 500) (.lit 100) (.lit 60) ]

def executedDecrease : List (Invocation Call) :=
  [ sampleGrant (.lit 41) (.lit 90010) (.lit 100) (.lit 60),
    ⟨{ sequence := .lit 40, timestamp := .lit 90000, signers := [] },
      .executeDecreaseAllowance samplePair.1 samplePair.2⟩,
    ownerCall (.lit 11) (.lit 510)
      (.decreaseAllowance samplePair.1 samplePair.2 (.lit 70)),
    sampleGrant (.lit 10) (.lit 500) (.lit 100) (.lit 60) ]

theorem decreaseBelongs_of_unencumbered_sample : DecreaseBelongs executedDecrease samplePair := by
  apply decreaseBelongs_of_unencumbered
  intro turn member grants
  have among := List.mem_map_of_mem
    (f := fun turn => (decide (turn.deed = .decreased), turn.deed.isGrant, turn.before.pending)) member
  change (decide (turn.deed = .decreased), turn.deed.isGrant, turn.before.pending) ∈
    [(false, true, none), (true, false, some _), (false, false, none), (false, true, none)] at among
  have granted : turn.deed.isGrant = true := grants
  simp only [granted, List.mem_cons, List.not_mem_nil, or_false, Prod.mk.injEq, Bool.true_eq_false, false_and,
    and_false, false_or, true_and] at among
  rcases among with ⟨_, free⟩ | ⟨_, free⟩
  · exact free
  · exact free

theorem oldDecrease_applied : ¬ ∀ inputs pair, DecreaseBelongs inputs pair := by
  intro every
  obtain ⟨mid, queue, _, _, queued, ungranted⟩ := every oldDecrease samplePair [] _ _ rfl rfl
  rcases queued.last.cases_cons with ⟨⟨_, queues⟩, _⟩ | ⟨_, rest, same, _⟩
  · cases queues
  · subst same
    exact ungranted _ (List.mem_cons_self ..) rfl

/-- A receipt that is not a grant of the pair can lower the limit, and only after the delay. -/
def LimitsOnlyFall (inputs : List (Invocation Call)) (pair : Pair) : Prop :=
  ∀ newer receipt older, history inputs = newer ++ receipt :: older →
    (∀ turn, turnOf pair receipt = some turn → ¬ turn.Grants) →
      ∀ record, receipt.before.permission pair = some record →
        ∃ record', receipt.after.permission pair = some record' ∧
          record'.limitTotal.toInt ≤ record.limitTotal.toInt ∧
          (record'.limitTotal ≠ record.limitTotal →
            ∃ turn mid queue pending, turnOf pair receipt = some turn ∧ turn.deed = .decreased ∧
              QueuedBy (turnsOf pair older) mid queue pending ∧
              queue.env.timestamp.toInt + 86400 ≤ turn.env.timestamp.toInt ∧
              record'.spent.toInt ≤ record'.limitTotal.toInt)

theorem history_observed (pair : Pair) (inputs : List (Invocation Call)) :
    ∀ receipt ∈ history inputs, Observed pair receipt :=
  Run.history_forall _ _ (observe_observed pair) inputs

theorem PairStep.limit_kept (step : PairStep pair env deed before after)
    (plain : deed.isGrant = false) (kept : deed ≠ .decreased) {record : PermissionRecord}
    (stored : before.permission = some record) :
    ∃ record', after.permission = some record' ∧ record'.limitTotal = record.limitTotal := by
  cases step with
  | granted => cases plain
  | decreased => exact absurd rfl kept
  | queued => exact ⟨record, stored, rfl⟩
  | revoked _ found | spent _ found | paused _ found | resumed _ found =>
    cases found.symm.trans stored
    exact ⟨_, rfl, rfl⟩

theorem PairStep.limit_lowered (step : PairStep pair env .decreased before after)
    {record : PermissionRecord} (stored : before.permission = some record)
    (waiting : before.pending = some decrement) :
    ∃ record', after.permission = some record' ∧
      record'.limitTotal.toInt = record.limitTotal.toInt - decrement.amount.toInt ∧
      record'.spent.toInt ≤ record'.limitTotal.toInt ∧
      decrement.executionTime.toInt ≤ env.timestamp.toInt := by
  obtain ⟨held, pending, newLimit, found, queued, present, difference, covered, elapsed⟩ := step.applied
  cases found.symm.trans stored
  cases queued.symm.trans waiting
  exact ⟨_, present, difference, covered, elapsed⟩

/-- Limits only fall in exactly those runs that never execute a decrease by a negative amount. -/
theorem limitsOnlyFall_iff (inputs : List (Invocation Call)) (pair : Pair) :
    LimitsOnlyFall inputs pair ↔ ∀ turn ∈ turnsOf pair (history inputs), turn.deed = .decreased →
      ∀ pending, turn.before.pending = some pending → 0 ≤ pending.amount.toInt := by
  constructor
  · intro fall turn member executed pending waiting
    obtain ⟨receipt, among, took⟩ := List.mem_filterMap.mp member
    obtain ⟨newer, older, cut⟩ := List.append_of_mem among
    cases history_observed pair inputs receipt among with
    | idle none => cases none.symm.trans took
    | turn again before after step =>
      cases again.symm.trans took
      have plain : ∀ other, turnOf pair receipt = some other → ¬ other.Grants := by
        intro other same grants
        cases took.symm.trans same
        simp [Turn.Grants, executed, Deed.isGrant] at grants
      rw [executed] at step
      obtain ⟨record, _, _, stored, _⟩ := step.applied
      obtain ⟨record', present, difference, _⟩ := step.limit_lowered stored waiting
      rw [before] at stored
      rw [after] at present
      obtain ⟨_, present', lower, _⟩ := fall newer receipt older cut plain record stored
      cases present.symm.trans present'
      omega
  -- Conversely only an executed decrease moves the limit, and by an amount that is not negative.
  · intro nonneg newer receipt older cut ungranted record found
    obtain ⟨earlier, input, rfl, rfl⟩ := Run.history_cut _ _ cut
    have follows := history_follows pair earlier
    cases observe_observed pair (Run.final step .empty earlier) input with
    | idle none same =>
      have kept := congrArg View.permission same
      exact ⟨record, kept.trans found, Int.le_refl _, fun changed => absurd rfl changed⟩
    | @turn turn took before after taken =>
      have stored : turn.before.permission = some record := (congrArg View.permission before).trans found
      have written (record' : PermissionRecord) (present : turn.after.permission = some record') :
          (Run.observe step (Run.final step .empty earlier) input).after.permission pair = some record' :=
        (congrArg View.permission after).symm.trans present
      by_cases executed : turn.deed = .decreased
      · rw [executed] at taken
        obtain ⟨_, pending, _, _, waiting, _⟩ := taken.applied
        obtain ⟨record', present, difference, covered, elapsed⟩ := taken.limit_lowered stored waiting
        have member : turn ∈ turnsOf pair (history inputs) := by
          rw [cut]
          exact List.mem_filterMap.mpr ⟨_, List.mem_append_right _ (List.mem_cons_self ..), took⟩
        have positive := nonneg turn member executed pending waiting
        rw [before] at waiting
        obtain ⟨mid, queue, queued⟩ := follows.queuedBy waiting
        have waited : queue.env.timestamp.toInt + 86400 ≤ turn.env.timestamp.toInt := by
          rw [← queued.delay]
          exact elapsed
        refine ⟨record', written _ present, by omega, fun _ => ?_⟩
        exact ⟨turn, mid, queue, pending, took, executed, queued, waited, covered⟩
      · have plain := Turn.plain (ungranted turn took)
        obtain ⟨record', present, same⟩ := taken.limit_kept plain executed stored
        exact ⟨record', written _ present, Int.le_of_eq (congrArg _ same), fun changed => absurd same changed⟩

def negativeDecrease : List (Invocation Call) :=
  [ ⟨{ sequence := .lit 40, timestamp := .lit 90000, signers := [] },
      .executeDecreaseAllowance samplePair.1 samplePair.2⟩,
    ownerCall (.lit 11) (.lit 510)
      (.decreaseAllowance samplePair.1 samplePair.2 (.lit (-70))),
    sampleGrant (.lit 10) (.lit 500) (.lit 100) (.lit 60) ]

theorem negativeDecrease_raises_limit : ¬ ∀ inputs pair, LimitsOnlyFall inputs pair := by
  intro every
  have ungranted : ∀ turn, turnOf samplePair (Run.observe step (final negativeDecrease.tail)
      (negativeDecrease.head (by decide))) = some turn → ¬ turn.Grants := by
    intro turn took grants
    cases took
    cases grants
  obtain ⟨record, found, lower, _⟩ :=
    every negativeDecrease samplePair [] _ _ rfl ungranted _ rfl
  cases found
  revert lower
  decide

end Delego.Permissions
