import Delego.Registry.Spec
import Delego.Shared.Run

set_option autoImplicit false

namespace Delego.Registry

open Shared Soroban Tx

inductive StatusChange (env : Env) (id : U64) (record : DelegationRecord) :
    Call → DelegationStatus → Prop
  | paused (active : record.status = .active) :
      StatusChange env id record (.pauseDelegation id) .paused
  | resumed (paused : record.status = .paused)
      (unexpired : env.sequence.toInt < record.expiresAtLedger.toInt) :
      StatusChange env id record (.resumeDelegation id) .active
  | revoked : StatusChange env id record (.revokeDelegation id) .revoked

inductive Transition (env : Env) : Call → Storage → Value → Storage → Prop
  | initialized {before : Storage} {admin : Address} (fresh : before.admin = none) :
      Transition env (.initializeContract admin) before (.flag true)
        { before with admin := some admin, nextId := some (.lit 1) }
  | created {before : Storage} {owner permissionsContract : Address} {agentId : BytesN 32}
      {label : Symbol} {ttlLedgers expiresAtLedger : U32} {following : U64}
      (signed : owner ∈ env.signers) (next : following.toInt = before.next.toInt + 1)
      (expiry : expiresAtLedger.toInt = env.sequence.toInt + ttlLedgers.toInt) :
      Transition env (.createDelegation owner agentId permissionsContract label ttlLedgers) before
        (.id before.next)
        { before with
          nextId := some following
          delegation := Function.update before.delegation before.next (some
            { id := before.next, owner, agentId, permissionsContract, status := .active, label
              createdAt := env.timestamp, expiresAtLedger })
          userDelegations := Function.update before.userDelegations owner
            (some ((before.userDelegations owner).getD [] ++ [before.next])) }
  | changed {call : Call} {before : Storage} {id : U64} {record : DelegationRecord}
      {status : DelegationStatus} (found : before.delegation id = some record)
      (signed : record.owner ∈ env.signers) (change : StatusChange env id record call status) :
      Transition env call before (.flag true) (before.withStatus id record status)

theorem perform_transition {env : Env} {call : Call} {s : Storage} {value : Value}
    {after : Frame Storage Empty} (done : (perform env call).Yields ⟨s, []⟩ value after) :
    Transition env call s value after.state := by
  cases call <;> simp only [perform, yields_map] at done <;> obtain ⟨answer, done, rfl⟩ := done
  case initializeContract =>
    obtain ⟨fresh, rfl, rfl⟩ := initializeContract_yields.mp done
    exact .initialized fresh
  case createDelegation =>
    obtain ⟨signed, following, next, expiresAtLedger, expiry, rfl, rfl⟩ :=
      createDelegation_yields.mp done
    exact .created signed next expiry
  case pauseDelegation =>
    obtain ⟨record, found, signed, active, rfl, rfl⟩ := pauseDelegation_yields.mp done
    exact .changed found signed (.paused active)
  case resumeDelegation =>
    obtain ⟨record, found, signed, paused, unexpired, rfl, rfl⟩ := resumeDelegation_yields.mp done
    exact .changed found signed (.resumed paused unexpired)
  case revokeDelegation =>
    obtain ⟨record, found, signed, rfl, rfl⟩ := revokeDelegation_yields.mp done
    exact .changed found signed .revoked

abbrev RegistryOutcome := Outcome Empty Empty Value

abbrev CallReceipt := Receipt Storage (Invocation Call) RegistryOutcome

def step (s : Storage) (invocation : Invocation Call) : RegistryOutcome × Storage :=
  invoke (perform invocation.env invocation.call) s

inductive Observed : CallReceipt → Prop
  | accepted {before after : Storage} {env : Env} {call : Call} {value : Value} {log : List Empty}
      (transition : Transition env call before value after) :
      Observed ⟨before, ⟨env, call⟩, .ok (value, log), after⟩
  | failed {before : Storage} {invocation : Invocation Call} {fault : Fault Empty} :
      Observed ⟨before, invocation, .error fault, before⟩

theorem observe_observed (s : Storage) (invocation : Invocation Call) :
    Observed (Run.observe step s invocation) := by
  unfold Run.observe step
  cases result : (invoke (perform invocation.env invocation.call) s).1 with
  | error fault =>
    rw [invoke_error result]
    exact .failed
  | ok returned => exact .accepted (perform_transition (invoke_ok.mp result))

structure Creation where
  env : Env
  id : U64
  owner : Address
  agentId : BytesN 32
  permissionsContract : Address
  label : Symbol
  ttlLedgers : U32

def created (receipt : CallReceipt) : Option Creation :=
  match receipt.input.call, receipt.output with
  | .createDelegation owner agentId permissionsContract label ttlLedgers, .ok (.id id, _) =>
    some { env := receipt.input.env, id, owner, agentId, permissionsContract, label, ttlLedgers }
  | _, _ => none

def issued (receipts : List CallReceipt) : List U64 :=
  ((receipts.filterMap created).map Creation.id).reverse

theorem issued_created {receipt : CallReceipt} {past : List CallReceipt} {creation : Creation}
    (new : created receipt = some creation) :
    issued (receipt :: past) = issued past ++ [creation.id] := by
  simp [issued, new]

theorem issued_other {receipt : CallReceipt} {past : List CallReceipt}
    (none : created receipt = none) : issued (receipt :: past) = issued past := by
  simp [issued, none]

end Delego.Registry
