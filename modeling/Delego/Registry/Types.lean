import Delego.Soroban.Host

set_option autoImplicit false

namespace Delego.Registry

open Shared Soroban

inductive DelegationStatus where
  | pending
  | active
  | paused
  | revoked
  | expired
  deriving DecidableEq

structure DelegationRecord where
  id : U64
  owner : Address
  agentId : BytesN 32
  permissionsContract : Address
  status : DelegationStatus
  label : Symbol
  createdAt : U64
  expiresAtLedger : U32
  deriving DecidableEq

-- One field for each kind of `DataKey`.
structure Storage where
  admin : Option Address
  nextId : Option U64
  delegation : U64 → Option DelegationRecord
  userDelegations : Address → Option (List U64)

def Storage.empty : Storage where
  admin := none
  nextId := none
  delegation _ := none
  userDelegations _ := none

-- The registry publishes no events and has no errors of its own: it returns or it panics.
abbrev RegistryTx := Tx Storage Empty Empty

inductive Call where
  | initializeContract (admin : Address)
  | createDelegation (owner : Address) (agentId : BytesN 32) (permissionsContract : Address)
      (label : Symbol) (ttlLedgers : U32)
  | pauseDelegation (delegationId : U64)
  | resumeDelegation (delegationId : U64)
  | revokeDelegation (delegationId : U64)
  deriving DecidableEq

inductive Value where
  | flag (answer : Bool)
  | id (delegationId : U64)
  deriving DecidableEq

end Delego.Registry
