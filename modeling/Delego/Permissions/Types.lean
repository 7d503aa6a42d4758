import Delego.Soroban.Host

set_option autoImplicit false

namespace Delego.Permissions

open Shared Soroban

inductive PermissionStatus where
  | active
  | paused
  | revoked
  | expired
  deriving DecidableEq

structure PermissionRecord where
  owner : Address
  delegate : Address
  limitTotal : I128
  spent : I128
  limitPerTx : I128
  allowedMerchants : List Address
  status : PermissionStatus
  expiresAtLedger : U32
  createdAt : U64
  deriving DecidableEq

structure PendingAllowanceDecrement where
  amount : I128
  executionTime : U64
  deriving DecidableEq

structure PermissionPauseState where
  grantsPaused : Bool
  updatedAtLedger : U32
  deriving DecidableEq

structure PermissionMetadata where
  policyHash : BytesN 32
  schema : Symbol
  deriving DecidableEq

structure SpendPreview where
  allowed : Bool
  reason : Symbol
  remainingAfter : I128
  deriving DecidableEq

inductive PermissionEvent where
  | granted (owner delegate : Address) (perTxLimit totalLimit : I128) (expiresAtLedger : U32)
      (merchantCount : Nat)
  | revoked (owner delegate : Address)
  | spent (owner delegate merchant : Address) (amount remaining : I128)
  | allowanceDecreased (owner delegate : Address) (oldLimit newLimit : I128)
  | paused (owner delegate pausedBy : Address) (reasonCode : Symbol)
  | resumed (owner delegate resumedBy : Address)
  | grantPauseChanged (grantsPaused : Bool) (changedBy : Address) (ledger : U32)
  deriving DecidableEq

inductive PermissionError where
  | notFound
  | expired
  | exceedsPerTxLimit
  | exceedsTotalLimit
  | merchantNotAllowed
  | unauthorized
  | invalidParam
  | permissionPaused
  | alreadyPaused
  | alreadyActive
  | grantsPaused
  | selfDelegationNotAllowed
  deriving DecidableEq

abbrev Pair := Address × Address

-- One field for each kind of `DataKey` the contract writes.
structure Storage where
  permission : Pair → Option PermissionRecord
  pendingDecrement : Pair → Option PendingAllowanceDecrement
  admin : Option Address
  grantPauseState : Option PermissionPauseState
  metadata : Pair → Option PermissionMetadata
  allowSelfDelegation : Option Bool

def Storage.empty : Storage where
  permission _ := none
  pendingDecrement _ := none
  admin := none
  grantPauseState := none
  metadata _ := none
  allowSelfDelegation := none

abbrev PermissionsTx := Tx Storage PermissionEvent PermissionError

inductive Call where
  | grant (owner delegate : Address) (limitTotal limitPerTx : I128) (allowedMerchants : List Address)
      (ttlLedgers : U32)
  | grantWithMetadata (owner delegate : Address) (limitTotal limitPerTx : I128)
      (allowedMerchants : List Address) (ttlLedgers : U32) (metadata : Option PermissionMetadata)
  | revoke (owner delegate : Address)
  | executeSpend (owner delegate : Address) (amount : I128) (merchant : Address)
  | decreaseAllowance (owner delegate : Address) (amount : I128)
  | executeDecreaseAllowance (owner delegate : Address)
  | pause (owner delegate : Address)
  | resume (owner delegate : Address)
  | setAdmin (admin : Address)
  | pauseGrants (admin : Address)
  | unpauseGrants (admin : Address)
  | setAllowSelfDelegation (admin : Address) (allow : Bool)
  deriving DecidableEq

inductive Value where
  | flag (answer : Bool)
  | void
  deriving DecidableEq

def Value.ofUnit : Unit → Value := fun _ => .void

end Delego.Permissions
