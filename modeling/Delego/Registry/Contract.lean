import Delego.Registry.Types
import Mathlib.Logic.Function.Basic

set_option autoImplicit false

namespace Delego.Registry

open Shared Soroban Tx

def initializeContract (admin : Address) : RegistryTx Bool := do
  let s ← read
  trapIf s.admin.isSome
  write { s with admin := some admin, nextId := some (.lit 1) }
  return true

def Storage.next (s : Storage) : U64 := s.nextId.getD (.lit 1)

def createDelegation (env : Env) (owner : Address) (agentId : BytesN 32)
    (permissionsContract : Address) (label : Symbol) (ttlLedgers : U32) : RegistryTx U64 := do
  owner.requireAuth env
  let s ← read
  let id := s.next
  let following ← orTrap (id.checkedAdd (.lit 1))
  let expiresAtLedger ← orTrap (env.sequence.checkedAdd ttlLedgers)
  let record : DelegationRecord :=
    { id, owner, agentId, permissionsContract, status := .active, label
      createdAt := env.timestamp, expiresAtLedger }
  let userDelegations := (s.userDelegations owner).getD []
  write { s with
    nextId := some following
    delegation := Function.update s.delegation id (some record)
    userDelegations := Function.update s.userDelegations owner (some (userDelegations ++ [id])) }
  return id

def setStatus (id : U64) (record : DelegationRecord) (status : DelegationStatus) :
    RegistryTx Unit := do
  let s ← read
  write { s with delegation := Function.update s.delegation id (some { record with status }) }

def pauseDelegation (env : Env) (delegationId : U64) : RegistryTx Bool := do
  let record ← orTrap ((← read).delegation delegationId)
  record.owner.requireAuth env
  trapIf (record.status ≠ .active)
  setStatus delegationId record .paused
  return true

def resumeDelegation (env : Env) (delegationId : U64) : RegistryTx Bool := do
  let record ← orTrap ((← read).delegation delegationId)
  record.owner.requireAuth env
  trapIf (record.status ≠ .paused)
  if record.expiresAtLedger.toInt ≤ env.sequence.toInt then
    -- The source stores the expiry and then panics, which takes the write back.
    setStatus delegationId record .expired
    trap
  else
    setStatus delegationId record .active
    return true

def revokeDelegation (env : Env) (delegationId : U64) : RegistryTx Bool := do
  let record ← orTrap ((← read).delegation delegationId)
  record.owner.requireAuth env
  if record.status = .revoked then
    return true
  else
    setStatus delegationId record .revoked
    return true

def getDelegationsByOwner (s : Storage) (owner : Address) : List DelegationRecord :=
  ((s.userDelegations owner).getD []).filterMap s.delegation

def isAuthorized (env : Env) (s : Storage) (delegationId : U64) (agentId : BytesN 32) : Bool :=
  match s.delegation delegationId with
  | none => false
  | some record =>
    if record.status ≠ .active then false
    else if record.expiresAtLedger.toInt ≤ env.sequence.toInt then false
    else if record.agentId ≠ agentId then false
    else true

def perform (env : Env) : Call → RegistryTx Value
  | .initializeContract admin => .flag <$> initializeContract admin
  | .createDelegation owner agentId permissionsContract label ttlLedgers =>
    .id <$> createDelegation env owner agentId permissionsContract label ttlLedgers
  | .pauseDelegation delegationId => .flag <$> pauseDelegation env delegationId
  | .resumeDelegation delegationId => .flag <$> resumeDelegation env delegationId
  | .revokeDelegation delegationId => .flag <$> revokeDelegation env delegationId

end Delego.Registry
