import Delego.Permissions.Types
import Mathlib.Logic.Function.Basic

set_option autoImplicit false

namespace Delego.Permissions

open Shared Soroban Tx

def grant (env : Env) (owner delegate : Address) (limitTotal limitPerTx : I128)
    (allowedMerchants : List Address) (ttlLedgers : U32) : PermissionsTx Unit := do
  owner.requireAuth env
  let s ← read
  rejectIf (∃ state ∈ s.grantPauseState, state.grantsPaused) .grantsPaused
  let allowSelf := s.allowSelfDelegation.getD false
  rejectIf (¬ allowSelf ∧ owner = delegate) .selfDelegationNotAllowed
  rejectIf (limitPerTx.toInt ≤ 0 ∨ limitTotal.toInt < limitPerTx.toInt) .invalidParam
  let expiresAtLedger ← orTrap (env.sequence.checkedAdd ttlLedgers)
  let record : PermissionRecord :=
    { owner, delegate, limitTotal, spent := .lit 0, limitPerTx, allowedMerchants
      status := .active, expiresAtLedger, createdAt := env.timestamp }
  write { s with permission := Function.update s.permission (owner, delegate) (some record) }
  emit (.granted owner delegate limitPerTx limitTotal expiresAtLedger allowedMerchants.length)

def revoke (env : Env) (owner delegate : Address) : PermissionsTx Unit := do
  owner.requireAuth env
  let s ← read
  let record ← orReject (s.permission (owner, delegate)) .notFound
  write { s with
    permission := Function.update s.permission (owner, delegate) (some { record with status := .revoked })
    pendingDecrement := Function.update s.pendingDecrement (owner, delegate) none }
  emit (.revoked owner delegate)

-- The first check of `can_spend`: each status but Active has an error of its own.
def spendableStatus : PermissionStatus → Except PermissionError Unit
  | .active => .ok ()
  | .paused => .error .permissionPaused
  | .expired => .error .expired
  | .revoked => .error .unauthorized

def canSpend (env : Env) (owner delegate : Address) (amount : I128) (merchant : Address) :
    PermissionsTx Unit := do
  let s ← read
  let record ← orReject (s.permission (owner, delegate)) .notFound
  ofResult (spendableStatus record.status)
  rejectIf (record.expiresAtLedger.toInt ≤ env.sequence.toInt) .expired
  rejectIf (record.limitPerTx.toInt < amount.toInt) .exceedsPerTxLimit
  let remaining ← orTrap (record.limitTotal.checkedSub record.spent)
  rejectIf (remaining.toInt < amount.toInt) .exceedsTotalLimit
  -- An empty merchant list allows every merchant.
  rejectIf (0 < record.allowedMerchants.length ∧ merchant ∉ record.allowedMerchants)
    .merchantNotAllowed

def executeSpend (env : Env) (owner delegate : Address) (amount : I128) (merchant : Address) :
    PermissionsTx Unit := do
  delegate.requireAuth env
  canSpend env owner delegate amount merchant
  let s ← read
  let record ← orTrap (s.permission (owner, delegate))
  let spent ← orTrap (record.spent.checkedAdd amount)
  write { s with
    permission := Function.update s.permission (owner, delegate) (some { record with spent }) }
  let remaining ← orTrap (record.limitTotal.checkedSub spent)
  emit (.spent owner delegate merchant amount remaining)

def previewReason : PermissionError → Symbol
  | .notFound => "not_found"
  | .expired => "expired"
  | .permissionPaused => "paused"
  | .unauthorized => "unauthorized"
  | .exceedsPerTxLimit => "per_tx_limit"
  | .exceedsTotalLimit => "total_limit"
  | .merchantNotAllowed => "bad_merchant"
  -- The source's last arm: errors `can_spend` does not return.
  | _ => "unauthorized"

def previewSpend (env : Env) (owner delegate : Address) (amount : I128) (merchant : Address) :
    PermissionsTx SpendPreview := do
  let s ← read
  let currentRemaining ← (s.permission (owner, delegate)).elim (pure (.lit 0)) fun record =>
    orTrap (record.limitTotal.checkedSub record.spent)
  match ← attempt (canSpend env owner delegate amount merchant) with
  | .ok () =>
    let remainingAfter ← orTrap (currentRemaining.checkedSub amount)
    return { allowed := true, reason := "ok", remainingAfter }
  | .error e =>
    return { allowed := false, reason := previewReason e, remainingAfter := currentRemaining }

def getRemainingAllowance (owner delegate : Address) : PermissionsTx I128 := do
  let s ← read
  let record ← orTrap (s.permission (owner, delegate))
  orTrap (record.limitTotal.checkedSub record.spent)

def decreaseAllowance (env : Env) (owner delegate : Address) (amount : I128) :
    PermissionsTx Bool := do
  owner.requireAuth env
  let s ← read
  let _record ← orTrap (s.permission (owner, delegate))
  trapIf (s.pendingDecrement (owner, delegate)).isSome
  let executionTime ← orTrap (env.timestamp.checkedAdd (.lit 86400))
  write { s with
    pendingDecrement := Function.update s.pendingDecrement (owner, delegate)
      (some { amount, executionTime }) }
  return true

-- Anyone may execute a queued decrease: the source asks for no authorization here.
def executeDecreaseAllowance (env : Env) (owner delegate : Address) : PermissionsTx Bool := do
  let s ← read
  let pending ← orTrap (s.pendingDecrement (owner, delegate))
  trapIf (env.timestamp.toInt < pending.executionTime.toInt)
  let record ← orTrap (s.permission (owner, delegate))
  let newLimit ← orTrap (record.limitTotal.checkedSub pending.amount)
  trapIf (newLimit.toInt < record.spent.toInt)
  write { s with
    permission := Function.update s.permission (owner, delegate)
      (some { record with limitTotal := newLimit })
    pendingDecrement := Function.update s.pendingDecrement (owner, delegate) none }
  emit (.allowanceDecreased owner delegate record.limitTotal newLimit)
  return true

def pause (env : Env) (owner delegate : Address) : PermissionsTx Unit := do
  owner.requireAuth env
  let s ← read
  let record ← orReject (s.permission (owner, delegate)) .notFound
  rejectIf (record.status ≠ .active) .alreadyPaused
  write { s with
    permission := Function.update s.permission (owner, delegate) (some { record with status := .paused }) }
  emit (.paused owner delegate owner "none")

def resume (env : Env) (owner delegate : Address) : PermissionsTx Unit := do
  owner.requireAuth env
  let s ← read
  let record ← orReject (s.permission (owner, delegate)) .notFound
  rejectIf (record.status = .active) .alreadyActive
  write { s with
    permission := Function.update s.permission (owner, delegate) (some { record with status := .active }) }
  emit (.resumed owner delegate owner)

def setAdmin (env : Env) (admin : Address) : PermissionsTx Unit := do
  admin.requireAuth env
  let s ← read
  trapIf s.admin.isSome
  write { s with admin := some admin }

def setGrantsPaused (env : Env) (admin : Address) (grantsPaused : Bool) : PermissionsTx Unit := do
  admin.requireAuth env
  let s ← read
  let storedAdmin ← orTrap s.admin
  rejectIf (admin ≠ storedAdmin) .unauthorized
  write { s with grantPauseState := some { grantsPaused, updatedAtLedger := env.sequence } }
  emit (.grantPauseChanged grantsPaused admin env.sequence)

def pauseGrants (env : Env) (admin : Address) : PermissionsTx Unit := setGrantsPaused env admin true

def unpauseGrants (env : Env) (admin : Address) : PermissionsTx Unit := setGrantsPaused env admin false

def setAllowSelfDelegation (env : Env) (admin : Address) (allow : Bool) : PermissionsTx Unit := do
  admin.requireAuth env
  let s ← read
  let storedAdmin ← orTrap s.admin
  rejectIf (admin ≠ storedAdmin) .unauthorized
  write { s with allowSelfDelegation := some allow }

-- Without metadata, what an earlier grant left is removed.
def grantWithMetadata (env : Env) (owner delegate : Address) (limitTotal limitPerTx : I128)
    (allowedMerchants : List Address) (ttlLedgers : U32) (metadata : Option PermissionMetadata) :
    PermissionsTx Unit := do
  grant env owner delegate limitTotal limitPerTx allowedMerchants ttlLedgers
  let s ← read
  write { s with metadata := Function.update s.metadata (owner, delegate) metadata }

def getMetadata (s : Storage) (owner delegate : Address) : Option PermissionMetadata :=
  s.metadata (owner, delegate)

def perform (env : Env) : Call → PermissionsTx Value
  | .grant owner delegate limitTotal limitPerTx allowedMerchants ttlLedgers =>
    .ofUnit <$> grant env owner delegate limitTotal limitPerTx allowedMerchants ttlLedgers
  | .grantWithMetadata owner delegate limitTotal limitPerTx allowedMerchants ttlLedgers metadata =>
    .ofUnit <$> grantWithMetadata env owner delegate limitTotal limitPerTx allowedMerchants
      ttlLedgers metadata
  | .revoke owner delegate => .ofUnit <$> revoke env owner delegate
  | .executeSpend owner delegate amount merchant =>
    .ofUnit <$> executeSpend env owner delegate amount merchant
  | .decreaseAllowance owner delegate amount => .flag <$> decreaseAllowance env owner delegate amount
  | .executeDecreaseAllowance owner delegate => .flag <$> executeDecreaseAllowance env owner delegate
  | .pause owner delegate => .ofUnit <$> pause env owner delegate
  | .resume owner delegate => .ofUnit <$> resume env owner delegate
  | .setAdmin admin => .ofUnit <$> setAdmin env admin
  | .pauseGrants admin => .ofUnit <$> pauseGrants env admin
  | .unpauseGrants admin => .ofUnit <$> unpauseGrants env admin
  | .setAllowSelfDelegation admin allow => .ofUnit <$> setAllowSelfDelegation env admin allow

end Delego.Permissions
