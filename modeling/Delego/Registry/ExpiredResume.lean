import Delego.Registry.Step

set_option autoImplicit false

namespace Delego.Registry

open Shared Soroban Tx

variable {env : Env} {id : U64} {record : DelegationRecord} {s : Storage}

def Unexpired (s : Storage) : Prop := ∀ id record, s.delegation id = some record → record.status ≠ .expired

theorem StatusChange.unexpired {call : Call} {status : DelegationStatus}
    (change : StatusChange env id record call status) : status ≠ .expired := by
  cases change <;> decide

theorem Unexpired.update {delegation : U64 → Option DelegationRecord} (unexpired : Unexpired s)
    (open' : record.status ≠ .expired)
    (written : delegation = Function.update s.delegation id (some record)) :
    ∀ id record, delegation id = some record → record.status ≠ .expired := by
  intro other record' stored
  by_cases same : other = id
  · rw [written, same, Function.update_self] at stored
    cases stored
    exact open'
  · rw [written, Function.update_of_ne same] at stored
    exact unexpired other record' stored

theorem receipt_unexpired {receipt : CallReceipt} (observed : Observed receipt)
    (unexpired : Unexpired receipt.before) : Unexpired receipt.after := by
  cases observed with
  | failed => exact unexpired
  | accepted transition =>
    cases transition with
    | initialized => exact unexpired
    | created => exact unexpired.update (by simp) rfl
    | changed _ _ change => exact unexpired.update change.unexpired rfl

theorem final_unexpired (inputs : List (Invocation Call)) : Unexpired (Run.final step .empty inputs) := by
  induction inputs with
  | nil =>
    intro id record stored
    cases stored
  | cons input earlier ih => exact receipt_unexpired (observe_observed _ input) ih

-- The host takes back what a resumption of an expired delegation has written.
theorem resume_expired (stored : s.delegation id = some record)
    (expired : record.expiresAtLedger.toInt ≤ env.sequence.toInt) :
    (step s ⟨env, .resumeDelegation id⟩).2 = s := by
  cases result : (step s ⟨env, .resumeDelegation id⟩).1 with
  | error fault => exact invoke_error result
  | ok returned =>
    obtain ⟨value, log⟩ := returned
    have yields := invoke_ok.mp result
    simp only [perform, yields_map] at yields
    obtain ⟨answer, done, _⟩ := yields
    obtain ⟨record', stored', _, _, unexpired, _⟩ := resumeDelegation_yields.mp done
    cases stored.symm.trans stored'
    omega

/-- After the resumption the delegation is stored as expired, and it stays so unless it is revoked. -/
def ExpiryRecorded (earlier : List (Invocation Call)) (env : Env) (id : U64) : Prop :=
  ∀ later, (∀ invocation ∈ later, invocation.call ≠ .revokeDelegation id) →
    ∃ record, (Run.final step .empty (later ++ ⟨env, .resumeDelegation id⟩ :: earlier)).delegation id =
      some record ∧ record.status = .expired

/-- A resumption at or past the expiry, whoever asks for it, leaves the delegation as it was, and nothing
ever stores it as expired. -/
theorem expiry_never_recorded (earlier : List (Invocation Call))
    (stored : (Run.final step .empty earlier).delegation id = some record)
    (expired : record.expiresAtLedger.toInt ≤ env.sequence.toInt) :
    ¬ ExpiryRecorded earlier env id ∧
      (Run.final step .empty (⟨env, .resumeDelegation id⟩ :: earlier)).delegation id = some record ∧
      ∀ later, Unexpired (Run.final step .empty (later ++ ⟨env, .resumeDelegation id⟩ :: earlier)) := by
  refine ⟨?_, ?_, ?_⟩
  · intro recorded
    obtain ⟨after, held, status⟩ := recorded [] (by simp)
    exact final_unexpired _ id after held status
  · rw [Run.final, resume_expired stored expired, stored]
  · intro later
    exact final_unexpired _

def pausedEnv (sequence : U32) : Env where
  sequence
  timestamp := .lit 500
  signers := [.sample 1]

def pausedRun : List (Invocation Call) :=
  [ ⟨pausedEnv (.lit 15), .pauseDelegation (.lit 1)⟩,
    ⟨pausedEnv (.lit 10), .createDelegation (.sample 1) 7 (.sample 8) "agent" (.lit 10)⟩ ]

def pausedRecord : DelegationRecord where
  id := .lit 1
  owner := .sample 1
  agentId := 7
  permissionsContract := .sample 8
  status := .paused
  label := "agent"
  createdAt := .lit 500
  expiresAtLedger := .lit 20

theorem pausedRun_stored : (Run.final step .empty pausedRun).delegation (.lit 1) = some pausedRecord := by
  decide

theorem expiry_never_recorded_sample :
    ¬ ExpiryRecorded pausedRun (pausedEnv (.lit 20)) (.lit 1) ∧
      (Run.final step .empty (⟨pausedEnv (.lit 20), .resumeDelegation (.lit 1)⟩ :: pausedRun)).delegation
        (.lit 1) = some pausedRecord ∧
      ∀ later, Unexpired (Run.final step .empty
        (later ++ ⟨pausedEnv (.lit 20), .resumeDelegation (.lit 1)⟩ :: pausedRun)) :=
  expiry_never_recorded pausedRun pausedRun_stored (by decide)

theorem expired_resume_stays_paused :
    ¬ ∀ (earlier : List (Invocation Call)) (env : Env) (id : U64) (record : DelegationRecord),
      (Run.final step .empty earlier).delegation id = some record → record.owner ∈ env.signers →
        record.status = .paused → record.expiresAtLedger.toInt ≤ env.sequence.toInt →
          ExpiryRecorded earlier env id := by
  intro recorded
  have expiry := recorded pausedRun (pausedEnv (.lit 20)) (.lit 1) pausedRecord pausedRun_stored (by decide) rfl
    (by decide)
  obtain ⟨after, held, status⟩ := expiry [] (by simp)
  rw [List.nil_append, Run.final, resume_expired pausedRun_stored (by decide), pausedRun_stored] at held
  cases held
  cases status

end Delego.Registry
