import Delego.Registry.Step
import Delego.Shared.Lockstep
import Delego.Shared.Unwinding

set_option autoImplicit false

namespace Delego.Registry

open Shared Soroban Tx

/-- States that differ in the records of other delegations only. -/
structure Alike (id : U64) (s s' : Storage) : Prop where
  admin : s.admin = s'.admin
  nextId : s.nextId = s'.nextId
  delegation : s.delegation id = s'.delegation id
  userDelegations : s.userDelegations = s'.userDelegations

def Call.foreign (id : U64) : Call → Bool
  | .pauseDelegation delegationId | .resumeDelegation delegationId | .revokeDelegation delegationId =>
    delegationId ≠ id
  | .initializeContract _ | .createDelegation .. => false

section Calls

variable {env : Env} {id : U64} {s s' : Storage}

theorem Alike.updated (alike : Alike id s s') (key : U64) (record : DelegationRecord) :
    Function.update s.delegation key (some record) id =
      Function.update s'.delegation key (some record) id := by
  by_cases here : id = key
  · subst here
    simp only [Function.update_self]
  · simp only [Function.update_of_ne here, alike.delegation]

theorem setStatus_lockstep (record : DelegationRecord) (status : DelegationStatus) :
    Lockstep (Alike id) Eq (setStatus id record status) (setStatus id record status) := by
  unfold setStatus
  apply lockstep_bind lockstep_read
  intro s s' alike
  exact lockstep_write { alike with delegation := alike.updated id _ }

theorem initializeContract_lockstep (admin : Address) :
    Lockstep (Alike id) Eq (initializeContract admin) (initializeContract admin) := by
  unfold initializeContract
  apply lockstep_bind lockstep_read
  intro s s' alike
  apply lockstep_same (lockstep_trapIf (by rw [alike.admin]))
  intro _
  apply lockstep_same (lockstep_write { alike with admin := rfl, nextId := rfl })
  intro _
  exact lockstep_pure rfl

theorem createDelegation_lockstep {owner permissionsContract : Address} {agentId : BytesN 32} {label : Symbol}
    {ttlLedgers : U32} :
    Lockstep (Alike id) Eq (createDelegation env owner agentId permissionsContract label ttlLedgers)
      (createDelegation env owner agentId permissionsContract label ttlLedgers) := by
  unfold createDelegation
  apply lockstep_same (lockstep_trapIf Iff.rfl)
  intro _
  apply lockstep_bind lockstep_read
  intro s s' alike
  have next : s.next = s'.next := by
    rw [Storage.next, Storage.next, alike.nextId]
  simp only [next, alike.userDelegations]
  apply lockstep_same (lockstep_orTrap _)
  intro following
  apply lockstep_same (lockstep_orTrap _)
  intro expiresAtLedger
  apply lockstep_same
  · apply lockstep_write
    exact { alike with nextId := rfl, delegation := alike.updated _ _, userDelegations := rfl }
  · intro _
    exact lockstep_pure rfl

theorem pauseDelegation_lockstep :
    Lockstep (Alike id) Eq (pauseDelegation env id) (pauseDelegation env id) := by
  unfold pauseDelegation
  apply lockstep_bind lockstep_read
  intro s s' alike
  rw [alike.delegation]
  apply lockstep_same (lockstep_orTrap _)
  intro record
  apply lockstep_same (lockstep_trapIf Iff.rfl)
  intro _
  apply lockstep_same (lockstep_trapIf Iff.rfl)
  intro _
  apply lockstep_same (setStatus_lockstep _ _)
  intro _
  exact lockstep_pure rfl

theorem resumeDelegation_lockstep :
    Lockstep (Alike id) Eq (resumeDelegation env id) (resumeDelegation env id) := by
  unfold resumeDelegation
  apply lockstep_bind lockstep_read
  intro s s' alike
  rw [alike.delegation]
  apply lockstep_same (lockstep_orTrap _)
  intro record
  apply lockstep_same (lockstep_trapIf Iff.rfl)
  intro _
  apply lockstep_same (lockstep_trapIf Iff.rfl)
  intro _
  apply lockstep_ite
  · apply lockstep_same (setStatus_lockstep _ _)
    intro _
    exact lockstep_trap
  · apply lockstep_same (setStatus_lockstep _ _)
    intro _
    exact lockstep_pure rfl

theorem revokeDelegation_lockstep :
    Lockstep (Alike id) Eq (revokeDelegation env id) (revokeDelegation env id) := by
  unfold revokeDelegation
  apply lockstep_bind lockstep_read
  intro s s' alike
  rw [alike.delegation]
  apply lockstep_same (lockstep_orTrap _)
  intro record
  apply lockstep_same (lockstep_trapIf Iff.rfl)
  intro _
  apply lockstep_ite
  · exact lockstep_pure rfl
  · apply lockstep_same (setStatus_lockstep _ _)
    intro _
    exact lockstep_pure rfl

theorem own_lockstep {call : Call} (own : call.foreign id = false) :
    Lockstep (Alike id) Eq (perform env call) (perform env call) := by
  have valued {α : Type} {call : RegistryTx α} (lockstep : Lockstep (Alike id) Eq call call) (f : α → Value) :
      Lockstep (Alike id) Eq (f <$> call) (f <$> call) :=
    lockstep_map lockstep fun _ _ same => congrArg f same
  cases call with
  | initializeContract admin => exact valued (initializeContract_lockstep admin) _
  | createDelegation => exact valued createDelegation_lockstep _
  | pauseDelegation delegationId =>
    have here : delegationId = id := by simpa [Call.foreign] using own
    exact here ▸ valued pauseDelegation_lockstep _
  | resumeDelegation delegationId =>
    have here : delegationId = id := by simpa [Call.foreign] using own
    exact here ▸ valued resumeDelegation_lockstep _
  | revokeDelegation delegationId =>
    have here : delegationId = id := by simpa [Call.foreign] using own
    exact here ▸ valued revokeDelegation_lockstep _

theorem foreign_alike {call : Call} (foreign : call.foreign id = true) (alike : Alike id s s') :
    Alike id (invoke (perform env call) s).2 s' := by
  cases result : (invoke (perform env call) s).1 with
  | error fault =>
    rw [invoke_error result]
    exact alike
  | ok returned =>
    obtain ⟨value, log⟩ := returned
    have transition := perform_transition (invoke_ok.mp result)
    generalize (invoke (perform env call) s).2 = after at transition ⊢
    cases transition with
    | initialized fresh => simp [Call.foreign] at foreign
    | created signed next expiry => simp [Call.foreign] at foreign
    | @changed _ _ target _ _ found signed change =>
      have other : id ≠ target := by
        cases change with
        | paused | resumed | revoked =>
          simp only [Call.foreign, ne_eq, decide_not, Bool.not_eq_true', decide_eq_false_iff_not] at foreign
          exact Ne.symm foreign
      exact { alike with delegation := (Function.update_of_ne other _ _).trans alike.delegation }

end Calls

section Observer

-- The registry, with each answer beside the call it is for.
def serve (s : Storage) (invocation : Invocation Call) : (Invocation Call × RegistryOutcome) × Storage :=
  ((invocation, (step s invocation).1), (step s invocation).2)

def shownTo (id : U64) (answer : Invocation Call × RegistryOutcome) :
    Option (Invocation Call × RegistryOutcome) :=
  if answer.1.call.foreign id then none else some answer

theorem serve_unwinding (id : U64) :
    Run.Unwinding serve (shownTo id) (fun invocation => invocation.call.foreign id) (Alike id) where
  skipped foreign alike := ⟨foreign_alike foreign alike, if_pos foreign⟩
  matched own alike := by
    obtain ⟨answer, after⟩ := (own_lockstep own).invoke alike
    exact ⟨after, congrArg (fun outcome => shownTo id (_, outcome)) answer⟩

structure LooksLike (id : U64) (inputs inputs' : List (Invocation Call)) : Prop where
  answers : Run.seen serve (shownTo id) .empty inputs = Run.seen serve (shownTo id) .empty inputs'
  authorized : ∀ env agentId, isAuthorized env (Run.final serve .empty inputs) id agentId =
    isAuthorized env (Run.final serve .empty inputs') id agentId

/-- Delegations do not interfere: pausing, resuming or revoking others, or failing to, changes neither what the
owner of a delegation is answered nor whom it authorizes, and no id that is given out. -/
theorem delegations_isolated (id : U64) (inputs : List (Invocation Call)) :
    LooksLike id inputs (inputs.filter fun invocation => !invocation.call.foreign id) := by
  obtain ⟨alike, answers⟩ := (serve_unwinding id).shown ⟨rfl, rfl, rfl, rfl⟩ inputs
  refine { answers, authorized := fun env agentId => ?_ }
  simp only [isAuthorized, alike.delegation]

end Observer

end Delego.Registry
