import Delego.Permissions.Step

set_option autoImplicit false

namespace Delego.Permissions

open Shared Soroban Tx

variable {env : Env} {owner delegate merchant : Address} {amount : I128} {s : Storage}
  {before after : Frame Storage PermissionEvent} {record : PermissionRecord}

/-- The error each reason of a preview stands for, as the source's documentation lists them. -/
def reasonError : Symbol → Option PermissionError
  | "not_found" => some .notFound
  | "expired" => some .expired
  | "paused" => some .permissionPaused
  | "unauthorized" => some .unauthorized
  | "per_tx_limit" => some .exceedsPerTxLimit
  | "total_limit" => some .exceedsTotalLimit
  | "bad_merchant" => some .merchantNotAllowed
  | _ => none

-- Whatever `can_spend` answers has a reason of its own, so the last arm of the source is dead.
theorem canSpend_reason {e : PermissionError}
    (failed : (canSpend env owner delegate amount merchant).Fails before (.error e)) :
    reasonError (previewReason e) = some e := by
  simp [canSpend] at failed
  rcases failed with ⟨_, rfl⟩ | ⟨record, _, failed⟩
  · decide
  rcases failed with status | ⟨_, failed⟩
  · cases standing : record.status <;> simp [standing, spendableStatus] at status
    all_goals
      subst status
      decide
  rcases failed with ⟨_, rfl⟩ | ⟨_, failed⟩
  · decide
  rcases failed with ⟨_, rfl⟩ | ⟨_, _, _, failed⟩
  · decide
  rcases failed with ⟨_, rfl⟩ | ⟨_, _, rfl⟩
  · decide
  · decide

/-- No `i128` operation of the two calls overflows: those of the spend count only if it is made. -/
structure InRange (env : Env) (record : PermissionRecord) (amount : I128) (merchant : Address) :
    Prop where
  remaining : ∃ remaining : I128, remaining.toInt = record.limitTotal.toInt - record.spent.toInt
  spent : Spendable env record amount merchant →
    ∃ spent : I128, spent.toInt = record.spent.toInt + amount.toInt
  left : Spendable env record amount merchant →
    ∃ left : I128, left.toInt = record.limitTotal.toInt - (record.spent.toInt + amount.toInt)

theorem canSpend_decided
    (inRange : ∀ record, s.permission (owner, delegate) = some record →
      InRange env record amount merchant) :
    (∃ record, s.permission (owner, delegate) = some record ∧
      Spendable env record amount merchant) ∨
    ∃ e, (canSpend env owner delegate amount merchant).Fails ⟨s, []⟩ (.error e) := by
  rcases yields_or_fails (canSpend env owner delegate amount merchant) ⟨s, []⟩ with
    ⟨_, _, passed⟩ | ⟨fault, failed⟩
  · exact .inl (canSpend_yields.mp passed).2
  · cases fault with
    | error e => exact .inr ⟨e, failed⟩
    | trap =>
      simp [canSpend] at failed
      obtain ⟨record, found, _, _, _, overflow⟩ := failed
      obtain ⟨remaining, difference⟩ := (inRange record found).remaining
      cases overflow.symm.trans (MachineInt.checkedSub_eq_some.mpr difference)

theorem getRemainingAllowance_yields {remaining : I128} :
    (getRemainingAllowance owner delegate).Yields before remaining after ↔
      after = before ∧ ∃ record, before.state.permission (owner, delegate) = some record ∧
        remaining.toInt = record.limitTotal.toInt - record.spent.toInt := by
  simp [getRemainingAllowance]
  tauto

/-- What the pair may still spend: the source's getter traps where there is no record. -/
def Remaining (s : Storage) (owner delegate : Address) (remaining : I128) : Prop :=
  (s.permission (owner, delegate) = none ∧ remaining = .lit 0) ∨
    (getRemainingAllowance owner delegate).Yields ⟨s, []⟩ remaining ⟨s, []⟩

theorem Remaining.of_record {remaining : I128}
    (found : s.permission (owner, delegate) = some record)
    (difference : remaining.toInt = record.limitTotal.toInt - record.spent.toInt) :
    Remaining s owner delegate remaining :=
  .inr (getRemainingAllowance_yields.mpr ⟨rfl, record, found, difference⟩)

theorem Remaining.current {remaining : I128} (current : Remaining s owner delegate remaining) :
    ((s.permission (owner, delegate)).elim (pure (.lit 0)) fun record =>
      orTrap (record.limitTotal.checkedSub record.spent) : PermissionsTx I128).Yields
        ⟨s, []⟩ remaining ⟨s, []⟩ := by
  rcases current with ⟨absent, rfl⟩ | present
  · simp [absent]
  · obtain ⟨_, record, found, difference⟩ := getRemainingAllowance_yields.mp present
    dsimp only at found
    simp [found, difference]

theorem previewSpend_allowed {remaining remainingAfter : I128}
    (current : Remaining s owner delegate remaining)
    (passed : (canSpend env owner delegate amount merchant).Yields ⟨s, []⟩ () ⟨s, []⟩)
    (left : remainingAfter.toInt = remaining.toInt - amount.toInt) :
    (previewSpend env owner delegate amount merchant).Yields ⟨s, []⟩
      { allowed := true, reason := "ok", remainingAfter } ⟨s, []⟩ := by
  simp only [previewSpend, yields_bind, yields_read]
  refine ⟨s, _, ⟨rfl, rfl⟩, remaining, _, current.current, .ok (), _, yields_attempt_ok passed, ?_⟩
  simp [left]

theorem previewSpend_refused {remaining : I128} {e : PermissionError}
    (current : Remaining s owner delegate remaining)
    (failed : (canSpend env owner delegate amount merchant).Fails ⟨s, []⟩ (.error e)) :
    (previewSpend env owner delegate amount merchant).Yields ⟨s, []⟩
      { allowed := false, reason := previewReason e, remainingAfter := remaining } ⟨s, []⟩ := by
  simp only [previewSpend, yields_bind, yields_read]
  refine ⟨s, _, ⟨rfl, rfl⟩, remaining, _, current.current, .error e, _,
    yields_attempt_error failed, ?_⟩
  simp

theorem step_spent {spent remaining : I128} (signed : delegate ∈ env.signers)
    (found : s.permission (owner, delegate) = some record)
    (spendable : Spendable env record amount merchant)
    (sum : spent.toInt = record.spent.toInt + amount.toInt)
    (difference : remaining.toInt = record.limitTotal.toInt - spent.toInt) :
    step s ⟨env, .executeSpend owner delegate amount merchant⟩ =
      (.ok (.void, [.spent owner delegate merchant amount remaining]),
        { s with
          permission := Function.update s.permission (owner, delegate)
            (some { record with spent }) }) := by
  have done : (executeSpend env owner delegate amount merchant).Yields ⟨s, []⟩ ()
      ⟨{ s with
          permission := Function.update s.permission (owner, delegate)
            (some { record with spent }) },
        [.spent owner delegate merchant amount remaining]⟩ :=
    executeSpend_yields.mpr
      ⟨signed, record, found, spendable, spent, sum, remaining, difference, rfl⟩
  exact invoke_eq_ok.mpr (yields_map.mpr ⟨(), done, rfl⟩)

theorem step_refused {e : PermissionError} (signed : delegate ∈ env.signers)
    (failed : (canSpend env owner delegate amount merchant).Fails ⟨s, []⟩ (.error e)) :
    (step s ⟨env, .executeSpend owner delegate amount merchant⟩).1 = .error (.error e) := by
  apply invoke_fails.mpr
  simp [perform, executeSpend, Address.requireAuth, signed, failed]

/-- A preview tells what the spend would do: whether it succeeds, with which error it fails, and
what is left afterwards. -/
theorem previewSpend_agrees (inputs : List (Invocation Call)) (env : Env)
    (owner delegate : Address) (amount : I128) (merchant : Address)
    (signed : delegate ∈ env.signers)
    (inRange : ∀ record, (final inputs).permission (owner, delegate) = some record →
      InRange env record amount merchant) :
    ∃ preview,
      invoke (previewSpend env owner delegate amount merchant) (final inputs) =
        (.ok (preview, []), final inputs) ∧
      (preview.allowed = true ↔ ∃ value log,
        (step (final inputs) ⟨env, .executeSpend owner delegate amount merchant⟩).1 =
          .ok (value, log)) ∧
      Remaining (step (final inputs) ⟨env, .executeSpend owner delegate amount merchant⟩).2
        owner delegate preview.remainingAfter ∧
      (preview.allowed = false →
        (step (final inputs) ⟨env, .executeSpend owner delegate amount merchant⟩).2 =
            final inputs ∧
          ∃ e, (step (final inputs) ⟨env, .executeSpend owner delegate amount merchant⟩).1 =
              .error (.error e) ∧ reasonError preview.reason = some e) := by
  rcases canSpend_decided inRange with ⟨record, found, spendable⟩ | ⟨e, failed⟩
  · obtain ⟨remaining, current⟩ := (inRange record found).remaining
    obtain ⟨spent, sum⟩ := (inRange record found).spent spendable
    obtain ⟨left, total⟩ := (inRange record found).left spendable
    have after : left.toInt = remaining.toInt - amount.toInt := by
      omega
    have difference : left.toInt = record.limitTotal.toInt - spent.toInt := by
      omega
    have allowed := previewSpend_allowed (.of_record found current)
      (canSpend_yields.mpr ⟨rfl, record, found, spendable⟩) after
    refine ⟨_, invoke_eq_ok.mpr allowed, ?_⟩
    rw [step_spent signed found spendable sum difference]
    refine ⟨by simp, .of_record (Function.update_self ..) difference, ?_⟩
    intro refused
    cases refused
  · obtain ⟨remaining, current⟩ : ∃ remaining, Remaining (final inputs) owner delegate remaining := by
      cases found : (final inputs).permission (owner, delegate) with
      | none => exact ⟨.lit 0, .inl ⟨found, rfl⟩⟩
      | some record =>
        obtain ⟨remaining, difference⟩ := (inRange record found).remaining
        exact ⟨remaining, .of_record found difference⟩
    have outcome := step_refused signed failed
    have unchanged := invoke_error outcome
    refine ⟨_, invoke_eq_ok.mpr (previewSpend_refused current failed), ?_⟩
    refine ⟨by simp [outcome], ?_, fun _ => ⟨unchanged, e, outcome, canSpend_reason failed⟩⟩
    rw [show (step _ _).2 = _ from unchanged]
    exact current

-- A grant of 1000 in all and 300 at a time, and then a spend of 200.
theorem previewSpend_agrees_sample :
    ∃ preview,
      invoke (previewSpend (sampleSpend (.lit 20) (.lit 0) (.lit 200)).env samplePair.1 samplePair.2
          (.lit 200) (.sample 3))
        (final [sampleGrant (.lit 10) (.lit 0) (.lit 1000) (.lit 300)]) =
        (.ok (preview, []), final [sampleGrant (.lit 10) (.lit 0) (.lit 1000) (.lit 300)]) ∧
      (preview.allowed = true ↔ ∃ value log,
        (step (final [sampleGrant (.lit 10) (.lit 0) (.lit 1000) (.lit 300)])
          (sampleSpend (.lit 20) (.lit 0) (.lit 200))).1 = .ok (value, log)) := by
  obtain ⟨preview, returned, agrees, _⟩ := previewSpend_agrees
    [sampleGrant (.lit 10) (.lit 0) (.lit 1000) (.lit 300)]
    (sampleSpend (.lit 20) (.lit 0) (.lit 200)).env samplePair.1 samplePair.2 (.lit 200) (.sample 3)
    (by decide) (fun record found => by
      cases found
      exact
        { remaining := ⟨.lit 1000, rfl⟩
          spent := fun _ => ⟨.lit 200, rfl⟩
          left := fun _ => ⟨.lit 800, rfl⟩ })
  exact ⟨preview, returned, agrees⟩

end Delego.Permissions
