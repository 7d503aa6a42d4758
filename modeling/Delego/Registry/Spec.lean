import Delego.Registry.Contract

set_option autoImplicit false

namespace Delego.Registry

open Shared Soroban Tx

variable {env : Env} {delegationId : U64} {answer : Bool} {before after : Frame Storage Empty}

theorem initializeContract_yields {admin : Address} :
    (initializeContract admin).Yields before answer after ↔
      before.state.admin = none ∧
        after = { before with state := { before.state with
          admin := some admin, nextId := some (.lit 1) } } ∧ answer = true := by
  simp [initializeContract]

theorem createDelegation_yields {owner permissionsContract : Address} {agentId : BytesN 32}
    {label : Symbol} {ttlLedgers : U32} {id : U64} :
    (createDelegation env owner agentId permissionsContract label ttlLedgers).Yields before id after ↔
      owner ∈ env.signers ∧
        ∃ following : U64, following.toInt = before.state.next.toInt + 1 ∧
          ∃ expiresAtLedger : U32, expiresAtLedger.toInt = env.sequence.toInt + ttlLedgers.toInt ∧
            after = { before with state := { before.state with
              nextId := some following
              delegation := Function.update before.state.delegation before.state.next (some
                { id := before.state.next, owner, agentId, permissionsContract, status := .active,
                  label, createdAt := env.timestamp, expiresAtLedger })
              userDelegations := Function.update before.state.userDelegations owner
                (some ((before.state.userDelegations owner).getD [] ++ [before.state.next])) } } ∧
            id = before.state.next := by
  simp [createDelegation]

def Storage.withStatus (s : Storage) (id : U64) (record : DelegationRecord)
    (status : DelegationStatus) : Storage :=
  { s with delegation := Function.update s.delegation id (some { record with status }) }

@[simp] theorem yields_setStatus {record : DelegationRecord} {status : DelegationStatus} {u : Unit} :
    (setStatus delegationId record status).Yields before u after ↔
      after = { before with state := before.state.withStatus delegationId record status } := by
  simp [setStatus, Storage.withStatus]

theorem pauseDelegation_yields : (pauseDelegation env delegationId).Yields before answer after ↔
    ∃ record, before.state.delegation delegationId = some record ∧ record.owner ∈ env.signers ∧
      record.status = .active ∧
      after = { before with state := before.state.withStatus delegationId record .paused } ∧
      answer = true := by
  simp [pauseDelegation]

theorem resumeDelegation_yields : (resumeDelegation env delegationId).Yields before answer after ↔
    ∃ record, before.state.delegation delegationId = some record ∧ record.owner ∈ env.signers ∧
      record.status = .paused ∧ env.sequence.toInt < record.expiresAtLedger.toInt ∧
      after = { before with state := before.state.withStatus delegationId record .active } ∧
      answer = true := by
  simp [resumeDelegation]

theorem revokeDelegation_yields : (revokeDelegation env delegationId).Yields before answer after ↔
    ∃ record, before.state.delegation delegationId = some record ∧ record.owner ∈ env.signers ∧
      after = { before with state := before.state.withStatus delegationId record .revoked } ∧
      answer = true := by
  -- Revoking a revoked delegation writes nothing, which is what writing it again would do.
  have idle {record : DelegationRecord} (found : before.state.delegation delegationId = some record)
      (revoked : record.status = .revoked) :
      before.state.withStatus delegationId record .revoked = before.state := by
    have same : { record with status := .revoked } = record := by rw [← revoked]
    rw [Storage.withStatus, same, ← found, Function.update_eq_self]
  simp only [revokeDelegation, yields_bind, yields_read, yields_orTrap, yields_requireAuth, yields_ite,
    yields_setStatus, yields_pure]
  constructor
  · intro done
    obtain ⟨_, _, ⟨rfl, rfl⟩, record, _, ⟨found, rfl⟩, _, _, ⟨signed, rfl⟩,
      ⟨revoked, rfl, rfl⟩ | ⟨_, _, _, rfl, rfl, rfl⟩⟩ := done
    · exact ⟨record, found, signed, by rw [idle found revoked], rfl⟩
    · exact ⟨record, found, signed, rfl, rfl⟩
  · intro done
    obtain ⟨record, found, signed, rfl, rfl⟩ := done
    refine ⟨_, _, ⟨rfl, rfl⟩, record, _, ⟨found, rfl⟩, (), _, ⟨signed, rfl⟩, ?_⟩
    by_cases revoked : record.status = .revoked
    · exact .inl ⟨revoked, rfl, by rw [idle found revoked]⟩
    · exact .inr ⟨revoked, (), _, rfl, rfl, rfl⟩

theorem isAuthorized_iff {s : Storage} {agentId : BytesN 32} :
    isAuthorized env s delegationId agentId = true ↔
      ∃ record, s.delegation delegationId = some record ∧ record.status = .active ∧
        env.sequence.toInt < record.expiresAtLedger.toInt ∧ record.agentId = agentId := by
  unfold isAuthorized
  cases s.delegation delegationId <;> simp

end Delego.Registry
