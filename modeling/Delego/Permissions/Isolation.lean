import Delego.Permissions.Step
import Delego.Shared.Lockstep
import Delego.Shared.Unwinding

set_option autoImplicit false

namespace Delego.Permissions

open Shared Soroban Tx

structure Alike (pair : Pair) (s s' : Storage) : Prop where
  permission : s.permission pair = s'.permission pair
  pendingDecrement : s.pendingDecrement pair = s'.pendingDecrement pair
  metadata : s.metadata pair = s'.metadata pair
  admin : s.admin = s'.admin
  grantPauseState : s.grantPauseState = s'.grantPauseState
  allowSelfDelegation : s.allowSelfDelegation = s'.allowSelfDelegation

def Call.foreign (pair : Pair) (call : Call) : Bool :=
  match call.deed with
  | some (named, _) => named ≠ pair
  | none => false

section Calls

variable {env : Env} {owner delegate admin merchant : Address} {s s' : Storage}

theorem Alike.withPermission (alike : Alike (owner, delegate) s s') (record : PermissionRecord) :
    Alike (owner, delegate)
      { s with permission := Function.update s.permission (owner, delegate) (some record) }
      { s' with permission := Function.update s'.permission (owner, delegate) (some record) } :=
  { alike with permission := by simp only [Function.update_self] }

theorem Alike.withPending (alike : Alike (owner, delegate) s s')
    (pending : Option PendingAllowanceDecrement) :
    Alike (owner, delegate)
      { s with pendingDecrement := Function.update s.pendingDecrement (owner, delegate) pending }
      { s' with pendingDecrement := Function.update s'.pendingDecrement (owner, delegate) pending } :=
  { alike with pendingDecrement := by simp only [Function.update_self] }

theorem lockstep_requireAuth (pair : Pair) (address : Address) :
    Lockstep (Alike pair) Eq (address.requireAuth env : PermissionsTx Unit) (address.requireAuth env) :=
  lockstep_trapIf Iff.rfl

theorem grant_lockstep {limitTotal limitPerTx : I128} {allowedMerchants : List Address} {ttlLedgers : U32} :
    Lockstep (Alike (owner, delegate)) Eq
      (grant env owner delegate limitTotal limitPerTx allowedMerchants ttlLedgers)
      (grant env owner delegate limitTotal limitPerTx allowedMerchants ttlLedgers) := by
  unfold grant
  apply lockstep_same (lockstep_requireAuth _ _)
  intro _
  apply lockstep_bind lockstep_read
  intro s s' alike
  apply lockstep_same (lockstep_rejectIf (by rw [alike.grantPauseState]) _)
  intro _
  apply lockstep_same (lockstep_rejectIf (by rw [alike.allowSelfDelegation]) _)
  intro _
  apply lockstep_same (lockstep_rejectIf Iff.rfl _)
  intro _
  apply lockstep_same (lockstep_orTrap _)
  intro expiresAtLedger
  apply lockstep_same (lockstep_write (alike.withPermission _))
  intro _
  exact lockstep_emit _

theorem grantWithMetadata_lockstep {limitTotal limitPerTx : I128} {allowedMerchants : List Address}
    {ttlLedgers : U32} {metadata : Option PermissionMetadata} :
    Lockstep (Alike (owner, delegate)) Eq
      (grantWithMetadata env owner delegate limitTotal limitPerTx allowedMerchants ttlLedgers metadata)
      (grantWithMetadata env owner delegate limitTotal limitPerTx allowedMerchants ttlLedgers metadata) := by
  unfold grantWithMetadata
  apply lockstep_same grant_lockstep
  intro _
  apply lockstep_bind lockstep_read
  intro s s' alike
  apply lockstep_write
  exact { alike with metadata := by simp only [Function.update_self] }

theorem revoke_lockstep :
    Lockstep (Alike (owner, delegate)) Eq (revoke env owner delegate) (revoke env owner delegate) := by
  unfold revoke
  apply lockstep_same (lockstep_requireAuth _ _)
  intro _
  apply lockstep_bind lockstep_read
  intro s s' alike
  rw [alike.permission]
  apply lockstep_same (lockstep_orReject _ _)
  intro record
  apply lockstep_same (lockstep_write ((alike.withPermission _).withPending none))
  intro _
  exact lockstep_emit _

theorem canSpend_lockstep {amount : I128} :
    Lockstep (Alike (owner, delegate)) Eq (canSpend env owner delegate amount merchant)
      (canSpend env owner delegate amount merchant) := by
  unfold canSpend
  apply lockstep_bind lockstep_read
  intro s s' alike
  rw [alike.permission]
  apply lockstep_same (lockstep_orReject _ _)
  intro record
  apply lockstep_same (lockstep_ofResult _)
  intro _
  apply lockstep_same (lockstep_rejectIf Iff.rfl _)
  intro _
  apply lockstep_same (lockstep_rejectIf Iff.rfl _)
  intro _
  apply lockstep_same (lockstep_orTrap _)
  intro remaining
  apply lockstep_same (lockstep_rejectIf Iff.rfl _)
  intro _
  exact lockstep_rejectIf Iff.rfl _

theorem executeSpend_lockstep {amount : I128} :
    Lockstep (Alike (owner, delegate)) Eq (executeSpend env owner delegate amount merchant)
      (executeSpend env owner delegate amount merchant) := by
  unfold executeSpend
  apply lockstep_same (lockstep_requireAuth _ _)
  intro _
  apply lockstep_same canSpend_lockstep
  intro _
  apply lockstep_bind lockstep_read
  intro s s' alike
  rw [alike.permission]
  apply lockstep_same (lockstep_orTrap _)
  intro record
  apply lockstep_same (lockstep_orTrap _)
  intro spent
  apply lockstep_same (lockstep_write (alike.withPermission _))
  intro _
  apply lockstep_same (lockstep_orTrap _)
  intro remaining
  exact lockstep_emit _

theorem decreaseAllowance_lockstep {amount : I128} :
    Lockstep (Alike (owner, delegate)) Eq (decreaseAllowance env owner delegate amount)
      (decreaseAllowance env owner delegate amount) := by
  unfold decreaseAllowance
  apply lockstep_same (lockstep_requireAuth _ _)
  intro _
  apply lockstep_bind lockstep_read
  intro s s' alike
  rw [alike.permission, alike.pendingDecrement]
  apply lockstep_same (lockstep_orTrap _)
  intro _
  apply lockstep_same (lockstep_trapIf Iff.rfl)
  intro _
  apply lockstep_same (lockstep_orTrap _)
  intro executionTime
  apply lockstep_same (lockstep_write (alike.withPending _))
  intro _
  exact lockstep_pure rfl

theorem executeDecreaseAllowance_lockstep :
    Lockstep (Alike (owner, delegate)) Eq (executeDecreaseAllowance env owner delegate)
      (executeDecreaseAllowance env owner delegate) := by
  unfold executeDecreaseAllowance
  apply lockstep_bind lockstep_read
  intro s s' alike
  rw [alike.permission, alike.pendingDecrement]
  apply lockstep_same (lockstep_orTrap _)
  intro pending
  apply lockstep_same (lockstep_trapIf Iff.rfl)
  intro _
  apply lockstep_same (lockstep_orTrap _)
  intro record
  apply lockstep_same (lockstep_orTrap _)
  intro newLimit
  apply lockstep_same (lockstep_trapIf Iff.rfl)
  intro _
  apply lockstep_same (lockstep_write ((alike.withPermission _).withPending none))
  intro _
  apply lockstep_same (lockstep_emit _)
  intro _
  exact lockstep_pure rfl

theorem pause_lockstep :
    Lockstep (Alike (owner, delegate)) Eq (pause env owner delegate) (pause env owner delegate) := by
  unfold pause
  apply lockstep_same (lockstep_requireAuth _ _)
  intro _
  apply lockstep_bind lockstep_read
  intro s s' alike
  rw [alike.permission]
  apply lockstep_same (lockstep_orReject _ _)
  intro record
  apply lockstep_same (lockstep_rejectIf Iff.rfl _)
  intro _
  apply lockstep_same (lockstep_write (alike.withPermission _))
  intro _
  exact lockstep_emit _

theorem resume_lockstep :
    Lockstep (Alike (owner, delegate)) Eq (resume env owner delegate) (resume env owner delegate) := by
  unfold resume
  apply lockstep_same (lockstep_requireAuth _ _)
  intro _
  apply lockstep_bind lockstep_read
  intro s s' alike
  rw [alike.permission]
  apply lockstep_same (lockstep_orReject _ _)
  intro record
  apply lockstep_same (lockstep_rejectIf Iff.rfl _)
  intro _
  apply lockstep_same (lockstep_write (alike.withPermission _))
  intro _
  exact lockstep_emit _

theorem previewSpend_lockstep {amount : I128} :
    Lockstep (Alike (owner, delegate)) Eq (previewSpend env owner delegate amount merchant)
      (previewSpend env owner delegate amount merchant) := by
  unfold previewSpend
  apply lockstep_bind lockstep_read
  intro s s' alike
  rw [alike.permission]
  have remains : Lockstep (Alike (owner, delegate)) Eq
      ((s'.permission (owner, delegate)).elim (pure (.lit 0)) fun record =>
        (orTrap (record.limitTotal.checkedSub record.spent) : PermissionsTx I128))
      ((s'.permission (owner, delegate)).elim (pure (.lit 0)) fun record =>
        orTrap (record.limitTotal.checkedSub record.spent)) := by
    cases s'.permission (owner, delegate) with
    | none => exact lockstep_pure rfl
    | some record => exact lockstep_orTrap _
  apply lockstep_same remains
  intro currentRemaining
  apply lockstep_same (lockstep_attempt canSpend_lockstep)
  intro result
  cases result with
  | ok _ =>
    apply lockstep_same (lockstep_orTrap _)
    intro remainingAfter
    exact lockstep_pure rfl
  | error e => exact lockstep_pure rfl

theorem getRemainingAllowance_lockstep :
    Lockstep (Alike (owner, delegate)) Eq (getRemainingAllowance owner delegate)
      (getRemainingAllowance owner delegate) := by
  unfold getRemainingAllowance
  apply lockstep_bind lockstep_read
  intro s s' alike
  rw [alike.permission]
  apply lockstep_same (lockstep_orTrap _)
  intro record
  exact lockstep_orTrap _

variable {pair : Pair}

theorem setAdmin_lockstep : Lockstep (Alike pair) Eq (setAdmin env admin) (setAdmin env admin) := by
  unfold setAdmin
  apply lockstep_same (lockstep_requireAuth _ _)
  intro _
  apply lockstep_bind lockstep_read
  intro s s' alike
  apply lockstep_same (lockstep_trapIf (by rw [alike.admin]))
  intro _
  exact lockstep_write { alike with admin := rfl }

theorem setGrantsPaused_lockstep (grantsPaused : Bool) :
    Lockstep (Alike pair) Eq (setGrantsPaused env admin grantsPaused)
      (setGrantsPaused env admin grantsPaused) := by
  unfold setGrantsPaused
  apply lockstep_same (lockstep_requireAuth _ _)
  intro _
  apply lockstep_bind lockstep_read
  intro s s' alike
  rw [alike.admin]
  apply lockstep_same (lockstep_orTrap _)
  intro storedAdmin
  apply lockstep_same (lockstep_rejectIf Iff.rfl _)
  intro _
  apply lockstep_same (lockstep_write { alike with admin := rfl, grantPauseState := rfl })
  intro _
  exact lockstep_emit _

theorem setAllowSelfDelegation_lockstep (allow : Bool) :
    Lockstep (Alike pair) Eq (setAllowSelfDelegation env admin allow)
      (setAllowSelfDelegation env admin allow) := by
  unfold setAllowSelfDelegation
  apply lockstep_same (lockstep_requireAuth _ _)
  intro _
  apply lockstep_bind lockstep_read
  intro s s' alike
  rw [alike.admin]
  apply lockstep_same (lockstep_orTrap _)
  intro storedAdmin
  apply lockstep_same (lockstep_rejectIf Iff.rfl _)
  intro _
  exact lockstep_write { alike with admin := rfl, allowSelfDelegation := rfl }

theorem own_lockstep {call : Call} (own : call.foreign pair = false) :
    Lockstep (Alike pair) Eq (perform env call) (perform env call) := by
  cases call with
  | grant | grantWithMetadata | revoke | executeSpend | decreaseAllowance | executeDecreaseAllowance | pause
  | resume =>
    simp only [Call.foreign, Call.deed, ne_eq, decide_not, Bool.not_eq_false', decide_eq_true_eq] at own
    subst own
    apply lockstep_map _ fun _ _ same => congrArg _ same
    first
      | exact grant_lockstep | exact grantWithMetadata_lockstep | exact revoke_lockstep
      | exact executeSpend_lockstep | exact decreaseAllowance_lockstep
      | exact executeDecreaseAllowance_lockstep | exact pause_lockstep | exact resume_lockstep
  | setAdmin admin => exact lockstep_map setAdmin_lockstep fun _ _ same => congrArg _ same
  | pauseGrants admin => exact lockstep_map (setGrantsPaused_lockstep true) fun _ _ same => congrArg _ same
  | unpauseGrants admin => exact lockstep_map (setGrantsPaused_lockstep false) fun _ _ same => congrArg _ same
  | setAllowSelfDelegation admin allow =>
    exact lockstep_map (setAllowSelfDelegation_lockstep allow) fun _ _ same => congrArg _ same

theorem deed_governed {call : Call} {value : Value} {after : Frame Storage PermissionEvent}
    (deed : call.deed ≠ none) (done : (perform env call).Yields ⟨s, []⟩ value after) :
    after.state.admin = s.admin ∧ after.state.grantPauseState = s.grantPauseState ∧
      after.state.allowSelfDelegation = s.allowSelfDelegation := by
  cases call <;> simp only [perform, yields_map] at done <;> obtain ⟨answer, done, rfl⟩ := done
  case grant =>
    obtain ⟨_, _, _, _, _, _, rfl⟩ := grant_yields.mp done
    exact ⟨rfl, rfl, rfl⟩
  case grantWithMetadata =>
    obtain ⟨_, middle, granted, rfl⟩ := grantWithMetadata_yields.mp done
    obtain ⟨_, _, _, _, _, _, rfl⟩ := grant_yields.mp granted
    exact ⟨rfl, rfl, rfl⟩
  case revoke =>
    obtain ⟨_, _, _, rfl⟩ := revoke_yields.mp done
    exact ⟨rfl, rfl, rfl⟩
  case executeSpend =>
    obtain ⟨_, _, _, _, _, _, _, _, rfl⟩ := executeSpend_yields.mp done
    exact ⟨rfl, rfl, rfl⟩
  case decreaseAllowance =>
    obtain ⟨_, _, _, _, _, rfl, _⟩ := decreaseAllowance_yields.mp done
    exact ⟨rfl, rfl, rfl⟩
  case executeDecreaseAllowance =>
    obtain ⟨_, _, _, _, _, _, _, _, rfl, _⟩ := executeDecreaseAllowance_yields.mp done
    exact ⟨rfl, rfl, rfl⟩
  case pause =>
    obtain ⟨_, _, _, _, rfl⟩ := pause_yields.mp done
    exact ⟨rfl, rfl, rfl⟩
  case resume =>
    obtain ⟨_, _, _, _, rfl⟩ := resume_yields.mp done
    exact ⟨rfl, rfl, rfl⟩
  case setAdmin | pauseGrants | unpauseGrants | setAllowSelfDelegation => exact absurd rfl deed

theorem foreign_alike {call : Call} (foreign : call.foreign pair = true) (alike : Alike pair s s') :
    Alike pair (invoke (perform env call) s).2 s' := by
  cases result : (invoke (perform env call) s).1 with
  | error fault =>
    rw [invoke_error result]
    exact alike
  | ok returned =>
    have done := invoke_ok.mp result
    have effect := perform_effect done
    cases named : call.deed with
    | none => simp [Call.foreign, named] at foreign
    | some target =>
      obtain ⟨admin, grantPauseState, allowSelfDelegation⟩ :=
        deed_governed (by simp [named]) done
      have other : target.1 ≠ pair := by simpa [Call.foreign, named] using foreign
      rw [named] at effect
      cases effect with
      | touched step frame =>
        have same := frame pair (Ne.symm other)
        simp only [Storage.view, View.mk.injEq] at same
        exact
          { permission := same.1.trans alike.permission
            pendingDecrement := same.2.1.trans alike.pendingDecrement
            metadata := same.2.2.trans alike.metadata
            admin := admin.trans alike.admin
            grantPauseState := grantPauseState.trans alike.grantPauseState
            allowSelfDelegation := allowSelfDelegation.trans alike.allowSelfDelegation }

end Calls

section Observer

-- The contract, with each answer beside the call it is for.
def serve (s : Storage) (invocation : Invocation Call) : (Invocation Call × PermissionOutcome) × Storage :=
  ((invocation, (step s invocation).1), (step s invocation).2)

def shownTo (pair : Pair) (answer : Invocation Call × PermissionOutcome) :
    Option (Invocation Call × PermissionOutcome) :=
  if answer.1.call.foreign pair then none else some answer

def answersTo (pair : Pair) (inputs : List (Invocation Call)) : List (Invocation Call × PermissionOutcome) :=
  Run.seen serve (shownTo pair) .empty inputs

theorem final_serve (inputs : List (Invocation Call)) : Run.final serve .empty inputs = final inputs := by
  induction inputs with
  | nil => rfl
  | cons input earlier ih =>
    simp only [Run.final, ih]
    rfl

theorem serve_unwinding (pair : Pair) :
    Run.Unwinding serve (shownTo pair) (fun invocation => invocation.call.foreign pair) (Alike pair) where
  skipped foreign alike := ⟨foreign_alike foreign alike, if_pos foreign⟩
  matched own alike := by
    obtain ⟨answer, after⟩ := (own_lockstep own).invoke alike
    exact ⟨after, congrArg (fun outcome => shownTo pair (_, outcome)) answer⟩

/-- What a pair can learn: the answers to its own calls and to the admin's, and those of the queries. -/
structure LooksLike (pair : Pair) (inputs inputs' : List (Invocation Call)) : Prop where
  answers : answersTo pair inputs = answersTo pair inputs'
  preview : ∀ env amount merchant,
    (invoke (previewSpend env pair.1 pair.2 amount merchant) (final inputs)).1 =
      (invoke (previewSpend env pair.1 pair.2 amount merchant) (final inputs')).1
  remaining : (invoke (getRemainingAllowance pair.1 pair.2) (final inputs)).1 =
    (invoke (getRemainingAllowance pair.1 pair.2) (final inputs')).1
  metadata : getMetadata (final inputs) pair.1 pair.2 = getMetadata (final inputs') pair.1 pair.2

/-- Pairs do not interfere: whatever is called on the other pairs in between, failed calls included, a pair gets
the answers, events and metadata that it would get if nobody else had called the contract. -/
theorem pairs_isolated (pair : Pair) (inputs : List (Invocation Call)) :
    LooksLike pair inputs (inputs.filter fun invocation => !invocation.call.foreign pair) := by
  obtain ⟨alike, answers⟩ := (serve_unwinding pair).shown ⟨rfl, rfl, rfl, rfl, rfl, rfl⟩ inputs
  rw [final_serve, final_serve] at alike
  exact
    { answers
      preview := fun _ _ _ => (previewSpend_lockstep.invoke alike).1
      remaining := (getRemainingAllowance_lockstep.invoke alike).1
      metadata := alike.metadata }

end Observer

end Delego.Permissions
