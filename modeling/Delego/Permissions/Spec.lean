import Delego.Permissions.Contract

set_option autoImplicit false

namespace Delego.Permissions

open Shared Soroban Tx

variable {env : Env} {owner delegate admin merchant : Address} {before after : Frame Storage PermissionEvent}
  {u : Unit}

theorem grant_yields {limitTotal limitPerTx : I128} {allowedMerchants : List Address} {ttlLedgers : U32} :
    (grant env owner delegate limitTotal limitPerTx allowedMerchants ttlLedgers).Yields before u after ↔
      owner ∈ env.signers ∧
        (¬ ∃ state ∈ before.state.grantPauseState, state.grantsPaused = true) ∧
        (before.state.allowSelfDelegation.getD false = false → owner ≠ delegate) ∧
        (0 < limitPerTx.toInt ∧ limitPerTx.toInt ≤ limitTotal.toInt) ∧
        ∃ expiresAtLedger : U32, expiresAtLedger.toInt = env.sequence.toInt + ttlLedgers.toInt ∧
          after = ⟨{ before.state with
              permission := Function.update before.state.permission (owner, delegate) (some
                { owner, delegate, limitTotal, spent := .lit 0, limitPerTx, allowedMerchants
                  status := .active, expiresAtLedger, createdAt := env.timestamp }) },
            before.log ++ [.granted owner delegate limitPerTx limitTotal expiresAtLedger
              allowedMerchants.length]⟩ := by
  simp [grant]

theorem grantWithMetadata_yields {limitTotal limitPerTx : I128} {allowedMerchants : List Address}
    {ttlLedgers : U32} {metadata : Option PermissionMetadata} :
    (grantWithMetadata env owner delegate limitTotal limitPerTx allowedMerchants ttlLedgers
        metadata).Yields before u after ↔
      ∃ u middle,
        (grant env owner delegate limitTotal limitPerTx allowedMerchants ttlLedgers).Yields before u middle ∧
          after = ⟨{ middle.state with
            metadata := Function.update middle.state.metadata (owner, delegate) metadata },
            middle.log⟩ := by
  simp [grantWithMetadata]

theorem revoke_yields : (revoke env owner delegate).Yields before u after ↔
    owner ∈ env.signers ∧ ∃ record, before.state.permission (owner, delegate) = some record ∧
      after = ⟨{ before.state with
          permission := Function.update before.state.permission (owner, delegate)
            (some { record with status := .revoked })
          pendingDecrement := Function.update before.state.pendingDecrement (owner, delegate) none },
        before.log ++ [.revoked owner delegate]⟩ := by
  simp [revoke]

theorem spendableStatus_ok {status : PermissionStatus} :
    spendableStatus status = .ok u ↔ status = .active := by
  cases status <;> simp [spendableStatus]

structure Spendable (env : Env) (record : PermissionRecord) (amount : I128) (merchant : Address) :
    Prop where
  active : record.status = .active
  unexpired : env.sequence.toInt < record.expiresAtLedger.toInt
  perTx : amount.toInt ≤ record.limitPerTx.toInt
  total : ∃ remaining : I128, remaining.toInt = record.limitTotal.toInt - record.spent.toInt ∧
    amount.toInt ≤ remaining.toInt
  listed : 0 < record.allowedMerchants.length → merchant ∈ record.allowedMerchants

theorem canSpend_yields {amount : I128} :
    (canSpend env owner delegate amount merchant).Yields before u after ↔
      after = before ∧ ∃ record, before.state.permission (owner, delegate) = some record ∧
        Spendable env record amount merchant := by
  simp only [canSpend, yields_bind, yields_read, yields_orReject, yields_ofResult, yields_rejectIf,
    yields_orTrap, spendableStatus_ok, MachineInt.checkedSub_eq_some, not_lt, not_le, not_and_not_right]
  constructor
  · intro done
    obtain ⟨_, _, ⟨rfl, rfl⟩, record, _, ⟨found, rfl⟩, _, _, ⟨active, rfl⟩, _, _, ⟨unexpired, rfl⟩,
      _, _, ⟨perTx, rfl⟩, remaining, _, ⟨difference, rfl⟩, _, _, ⟨total, rfl⟩, listed, rfl⟩ := done
    exact ⟨rfl, record, found, active, unexpired, perTx, ⟨remaining, difference, total⟩, listed⟩
  · intro done
    obtain ⟨rfl, record, found, active, unexpired, perTx, ⟨remaining, difference, total⟩, listed⟩ := done
    exact ⟨_, _, ⟨rfl, rfl⟩, record, _, ⟨found, rfl⟩, (), _, ⟨active, rfl⟩, (), _, ⟨unexpired, rfl⟩,
      (), _, ⟨perTx, rfl⟩, remaining, _, ⟨difference, rfl⟩, (), _, ⟨total, rfl⟩, listed, rfl⟩

theorem executeSpend_yields {amount : I128} :
    (executeSpend env owner delegate amount merchant).Yields before u after ↔
      delegate ∈ env.signers ∧
        ∃ record, before.state.permission (owner, delegate) = some record ∧
          Spendable env record amount merchant ∧
          ∃ spent : I128, spent.toInt = record.spent.toInt + amount.toInt ∧
            ∃ remaining : I128, remaining.toInt = record.limitTotal.toInt - spent.toInt ∧
              after = ⟨{ before.state with
                  permission := Function.update before.state.permission (owner, delegate)
                    (some { record with spent }) },
                before.log ++ [.spent owner delegate merchant amount remaining]⟩ := by
  simp only [executeSpend, yields_bind, yields_requireAuth, yields_read, yields_orTrap, yields_write,
    yields_emit, canSpend_yields, MachineInt.checkedAdd_eq_some, MachineInt.checkedSub_eq_some]
  constructor
  · intro done
    obtain ⟨_, _, ⟨signed, rfl⟩, _, _, ⟨rfl, record, found, spendable⟩, _, _, ⟨rfl, rfl⟩, same, _,
      ⟨again, rfl⟩, spent, _, ⟨sum, rfl⟩, _, _, rfl, remaining, _, ⟨difference, rfl⟩, rfl⟩ := done
    cases found.symm.trans again
    exact ⟨signed, record, found, spendable, spent, sum, remaining, difference, rfl⟩
  · intro done
    obtain ⟨signed, record, found, spendable, spent, sum, remaining, difference, rfl⟩ := done
    exact ⟨(), _, ⟨signed, rfl⟩, (), _, ⟨rfl, record, found, spendable⟩, _, _, ⟨rfl, rfl⟩, record, _,
      ⟨found, rfl⟩, spent, _, ⟨sum, rfl⟩, (), _, rfl, remaining, _, ⟨difference, rfl⟩, rfl⟩

theorem decreaseAllowance_yields {amount : I128} {answer : Bool} :
    (decreaseAllowance env owner delegate amount).Yields before answer after ↔
      owner ∈ env.signers ∧ (∃ record, before.state.permission (owner, delegate) = some record) ∧
        before.state.pendingDecrement (owner, delegate) = none ∧
        ∃ executionTime : U64, executionTime.toInt = env.timestamp.toInt + 86400 ∧
          after = { before with state := { before.state with
            pendingDecrement := Function.update before.state.pendingDecrement (owner, delegate)
              (some { amount, executionTime }) } } ∧ answer = true := by
  simp [decreaseAllowance]

theorem executeDecreaseAllowance_yields {answer : Bool} :
    (executeDecreaseAllowance env owner delegate).Yields before answer after ↔
      ∃ pending, before.state.pendingDecrement (owner, delegate) = some pending ∧
        pending.executionTime.toInt ≤ env.timestamp.toInt ∧
        ∃ record, before.state.permission (owner, delegate) = some record ∧
          ∃ newLimit : I128, newLimit.toInt = record.limitTotal.toInt - pending.amount.toInt ∧
            record.spent.toInt ≤ newLimit.toInt ∧
            after = ⟨{ before.state with
                permission := Function.update before.state.permission (owner, delegate)
                  (some { record with limitTotal := newLimit })
                pendingDecrement := Function.update before.state.pendingDecrement (owner, delegate) none },
              before.log ++ [.allowanceDecreased owner delegate record.limitTotal newLimit]⟩ ∧
            answer = true := by
  simp [executeDecreaseAllowance]

theorem pause_yields : (pause env owner delegate).Yields before u after ↔
    owner ∈ env.signers ∧ ∃ record, before.state.permission (owner, delegate) = some record ∧
      record.status = .active ∧
      after = ⟨{ before.state with
          permission := Function.update before.state.permission (owner, delegate)
            (some { record with status := .paused }) },
        before.log ++ [.paused owner delegate owner "none"]⟩ := by
  simp [pause]

theorem resume_yields : (resume env owner delegate).Yields before u after ↔
    owner ∈ env.signers ∧ ∃ record, before.state.permission (owner, delegate) = some record ∧
      record.status ≠ .active ∧
      after = ⟨{ before.state with
          permission := Function.update before.state.permission (owner, delegate)
            (some { record with status := .active }) },
        before.log ++ [.resumed owner delegate owner]⟩ := by
  simp [resume]

theorem setAdmin_yields : (setAdmin env admin).Yields before u after ↔
    admin ∈ env.signers ∧ before.state.admin = none ∧
      after = { before with state := { before.state with admin := some admin } } := by
  simp [setAdmin]

theorem setGrantsPaused_yields {grantsPaused : Bool} :
    (setGrantsPaused env admin grantsPaused).Yields before u after ↔
      admin ∈ env.signers ∧ before.state.admin = some admin ∧
        after = ⟨{ before.state with grantPauseState := some ⟨grantsPaused, env.sequence⟩ },
          before.log ++ [.grantPauseChanged grantsPaused admin env.sequence]⟩ := by
  simp [setGrantsPaused]

theorem setAllowSelfDelegation_yields {allow : Bool} :
    (setAllowSelfDelegation env admin allow).Yields before u after ↔
      admin ∈ env.signers ∧ before.state.admin = some admin ∧
        after = { before with state := { before.state with allowSelfDelegation := some allow } } := by
  simp [setAllowSelfDelegation]

end Delego.Permissions
