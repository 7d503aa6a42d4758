import Delego.Escrow.Types
import Mathlib.Logic.Function.Basic

set_option autoImplicit false

namespace Delego.Escrow

open Shared Soroban Tx

variable {host : Host}

def storage : EscrowTx host Storage := return (← read).storage

def setStorage (updated : Storage) : EscrowTx host Unit := do
  write { ← read with storage := updated }

/-- `token::Client::transfer`: the called token decides whether it goes through. -/
def transfer (token source target : Address) (amount : I128) : EscrowTx host Unit := do
  let chain ← read
  let ledger ← orTrap (host.transfer chain.ledger token source target amount)
  write { chain with ledger }
  emit (.transfer token source target amount)

def isAdmin (storage : Storage) (address : Address) : Bool :=
  match storage.admin with
  | none => false
  | some primaryAdmin =>
    if address = primaryAdmin then true else decide (address ∈ storage.adminList.getD [])

def isTokenAllowed (storage : Storage) (tokenAddress : Address) : Bool :=
  (storage.tokenEnabled tokenAddress).getD false

def listTokens (storage : Storage) : List Address := storage.tokenWhitelist.getD []

def getDisputeVotes (storage : Storage) (escrowId : U64) : List DisputeVote :=
  (storage.disputeVotes escrowId).getD []

def initializeContract (admin : Address) (feeBps : U32) (treasury : Address)
    (minAmount maxAmount : I128) : EscrowTx host Bool := do
  let s ← storage
  rejectIf s.admin.isSome .alreadyInitialized
  rejectIf (1000 < feeBps.toInt) .invalidFeeBps
  rejectIf (minAmount.toInt ≤ 0 ∨ maxAmount.toInt < minAmount.toInt) .invalidLimits
  setStorage { s with
    admin := some admin
    lastEscrowId := some (.lit 0)
    feeConfig := some { feeBps, treasury }
    amountLimits := some { minAmount, maxAmount } }
  return true

def setLimits (env : Env) (admin : Address) (minAmount maxAmount : I128) : EscrowTx host Bool := do
  admin.requireAuth env
  let s ← storage
  rejectIf (¬ isAdmin s admin) .unauthorized
  rejectIf (minAmount.toInt ≤ 0 ∨ maxAmount.toInt < minAmount.toInt) .invalidLimits
  setStorage { s with amountLimits := some { minAmount, maxAmount } }
  return true

-- The loop of `set_quorum_config`: it copies the arbiters and stops at the first repeated one.
def uniqueArbiters : List Address → List Address → Option (List Address)
  | unique, [] => some unique
  | unique, arbiter :: rest =>
    if arbiter ∈ unique then none else uniqueArbiters (unique ++ [arbiter]) rest

def setQuorumConfig (env : Env) (admin : Address) (arbiters : List Address) (threshold : U32) :
    EscrowTx host Bool := do
  admin.requireAuth env
  let s ← storage
  rejectIf (¬ isAdmin s admin) .unauthorized
  rejectIf (threshold.toInt = 0 ∨ (arbiters.length : Int) < threshold.toInt) .invalidQuorum
  let unique ← orReject (uniqueArbiters [] arbiters) .invalidQuorum
  setStorage { s with quorumConfig := some { arbiters := unique, threshold } }
  return true

def voteDispute (env : Env) (escrowId : U64) (arbiter : Address) (releaseToSeller : Bool) :
    EscrowTx host Bool := do
  arbiter.requireAuth env
  let s ← storage
  let quorumConfig ← orReject s.quorumConfig .quorumConfigNotSet
  rejectIf (arbiter ∉ quorumConfig.arbiters) .notAnArbiter
  let record ← orReject (s.escrow escrowId) .notFound
  rejectIf (record.status ≠ .disputed) .notDisputed
  let votes := getDisputeVotes s escrowId
  rejectIf (∃ vote ∈ votes, vote.arbiter = arbiter) .alreadyVoted
  setStorage { s with
    disputeVotes := Function.update s.disputeVotes escrowId
      (some (votes ++ [{ arbiter, releaseToSeller }])) }
  return true

/-- `(amount / 10_000) * fee_bps + ((amount % 10_000) * fee_bps) / 10_000` in checked `i128`. -/
def settlementFee (amount : I128) (feeBps : U32) : Option I128 := do
  let base : I128 := .lit 10000
  let rate : I128 := ⟨feeBps.toInt, by have := feeBps.lower; omega, by have := feeBps.upper; omega⟩
  let whole ← (← amount.checkedDiv base).checkedMul rate
  let part ← (← (← amount.checkedRem base).checkedMul rate).checkedDiv base
  whole.checkedAdd part

-- The source writes this block three times: in release, resolve_dispute and resolve_dispute_quorum.
def payToSeller (record : EscrowRecord) : EscrowTx host I128 := do
  let feeConfig ← orTrap (← storage).feeConfig
  let fee ← orTrap (settlementFee record.amount feeConfig.feeBps)
  let sellerAmount ← orTrap (record.amount.checkedSub fee)
  performIf (0 < fee.toInt)
    (transfer record.token host.currentContract feeConfig.treasury fee)
  transfer record.token host.currentContract record.seller sellerAmount
  return sellerAmount

def payToBuyer (record : EscrowRecord) : EscrowTx host Unit :=
  transfer record.token host.currentContract record.buyer record.amount

def setStatus (escrowId : U64) (record : EscrowRecord) (status : EscrowStatus) :
    EscrowTx host Unit := do
  let s ← storage
  setStorage { s with escrow := Function.update s.escrow escrowId (some { record with status }) }

def settle (escrowId : U64) (record : EscrowRecord) (releaseToSeller : Bool) :
    EscrowTx host Unit :=
  if releaseToSeller then do
    let _ ← payToSeller record
    setStatus escrowId record .released
  else do
    payToBuyer record
    setStatus escrowId record .refunded

def settleDispute (escrowId : U64) (record : EscrowRecord) (releaseToSeller : Bool)
    (caller : Address) : EscrowTx host Bool := do
  settle escrowId record releaseToSeller
  emit (.resolved escrowId releaseToSeller caller)
  return true

-- Only the votes of current arbiters count.
def countVotes (config : QuorumConfig) (votes : List DisputeVote) (releaseToSeller : Bool) : Nat :=
  votes.countP fun vote => vote.releaseToSeller = releaseToSeller ∧ vote.arbiter ∈ config.arbiters

def quorumOutcome (config : QuorumConfig) (votes : List DisputeVote) : Except EscrowError Bool :=
  let sellerVotes : Int := countVotes config votes true
  let buyerVotes : Int := countVotes config votes false
  if config.threshold.toInt ≤ sellerVotes ∧ config.threshold.toInt ≤ buyerVotes then
    .error .conflictingQuorum
  else if config.threshold.toInt ≤ sellerVotes then .ok true
  else if config.threshold.toInt ≤ buyerVotes then .ok false
  else .error .quorumNotReached

def resolveDisputeQuorum (env : Env) (escrowId : U64) (caller : Address) : EscrowTx host Bool := do
  caller.requireAuth env
  let s ← storage
  let record ← orReject (s.escrow escrowId) .notFound
  rejectIf (record.status ≠ .disputed) .notDisputed
  let quorumConfig ← orReject s.quorumConfig .quorumConfigNotSet
  let releaseToSeller ← ofResult (quorumOutcome quorumConfig (getDisputeVotes s escrowId))
  settleDispute escrowId record releaseToSeller caller

def updateFee (env : Env) (admin : Address) (newFeeBps : U32) : EscrowTx host Bool := do
  admin.requireAuth env
  let s ← storage
  rejectIf (¬ isAdmin s admin) .unauthorized
  rejectIf (1000 < newFeeBps.toInt) .invalidFeeBps
  let feeConfig ← orTrap s.feeConfig
  setStorage { s with feeConfig := some { feeConfig with feeBps := newFeeBps } }
  return true

def addToken (env : Env) (admin tokenAddress : Address) : EscrowTx host Bool := do
  admin.requireAuth env
  let s ← storage
  rejectIf (¬ isAdmin s admin) .unauthorized
  performIf (¬ isTokenAllowed s tokenAddress) <| setStorage { s with
    tokenWhitelist := some (listTokens s ++ [tokenAddress])
    tokenEnabled := Function.update s.tokenEnabled tokenAddress (some true) }
  return true

def removeToken (env : Env) (admin tokenAddress : Address) : EscrowTx host Bool := do
  admin.requireAuth env
  let s ← storage
  rejectIf (¬ isAdmin s admin) .unauthorized
  -- The whitelist is rewritten only when it holds the token; the flag is cleared either way.
  let tokenWhitelist :=
    if tokenAddress ∈ listTokens s then some ((listTokens s).erase tokenAddress)
    else s.tokenWhitelist
  setStorage { s with
    tokenWhitelist
    tokenEnabled := Function.update s.tokenEnabled tokenAddress (some false) }
  return true

def deposit (env : Env) (buyer seller token : Address) (amount : I128) (orderId : BytesN 32)
    (timeoutLedgers : U32) : EscrowTx host U64 := do
  buyer.requireAuth env
  let s ← storage
  rejectIf (∃ pauseState ∈ s.pauseState, pauseState.createPaused) .creationPaused
  rejectIf (¬ isTokenAllowed s token) .tokenNotWhitelisted
  rejectIf (amount.toInt ≤ 0) .invalidAmount
  let limits ← orTrap s.amountLimits
  rejectIf (amount.toInt < limits.minAmount.toInt) .amountBelowMin
  rejectIf (limits.maxAmount.toInt < amount.toInt) .amountAboveMax
  transfer token buyer host.currentContract amount
  let lastId ← orTrap ((s.lastEscrowId.getD (.lit 0)).checkedAdd (.lit 1))
  let timeoutLedger ← orTrap (env.sequence.checkedAdd timeoutLedgers)
  let record : EscrowRecord :=
    { escrowId := lastId, buyer, seller, token, amount, status := .funded, orderId
      createdAt := env.timestamp, timeoutLedger }
  setStorage { s with
    lastEscrowId := some lastId
    escrow := Function.update s.escrow lastId (some record) }
  emit (.created lastId buyer seller token amount orderId timeoutLedger)
  return lastId

def validateReleaseStatus (record : EscrowRecord) : Except EscrowError Unit :=
  if record.status = .released then .error .alreadyReleased
  else if record.status ≠ .funded then .error .invalidStatus
  else .ok ()

def release (env : Env) (escrowId : U64) (caller : Address) : EscrowTx host Bool := do
  caller.requireAuth env
  let s ← storage
  let record ← orReject (s.escrow escrowId) .notFound
  rejectIf (caller ≠ record.buyer ∧ ¬ isAdmin s caller) .unauthorized
  ofResult (validateReleaseStatus record)
  let sellerAmount ← payToSeller record
  setStatus escrowId record .released
  emit (.released escrowId record.seller sellerAmount caller)
  return true

def validateRefundCaller (env : Env) (s : Storage) (record : EscrowRecord) (caller : Address) :
    Except EscrowError Unit :=
  let timeoutReached := record.timeoutLedger.toInt ≤ env.sequence.toInt
  if caller = record.seller ∨ isAdmin s caller then .ok ()
  else if caller = record.buyer then
    if ¬ timeoutReached then .error .timeoutNotReached else .ok ()
  else .error .unauthorized

def refund (env : Env) (escrowId : U64) (caller : Address) : EscrowTx host Bool := do
  caller.requireAuth env
  let s ← storage
  let record ← orReject (s.escrow escrowId) .notFound
  rejectIf (record.status = .refunded) .alreadyRefunded
  rejectIf (record.status ≠ .funded) .invalidStatus
  ofResult (validateRefundCaller env s record caller)
  payToBuyer record
  setStatus escrowId record .refunded
  emit (.refunded escrowId record.buyer record.amount caller)
  return true

def dispute (env : Env) (escrowId : U64) (caller : Address) : EscrowTx host Bool := do
  caller.requireAuth env
  let s ← storage
  let record ← orReject (s.escrow escrowId) .notFound
  rejectIf (caller ≠ record.buyer ∧ caller ≠ record.seller) .unauthorized
  rejectIf (record.status ≠ .funded) .invalidStatus
  setStatus escrowId record .disputed
  emit (.disputed escrowId caller)
  return true

def resolveDispute (env : Env) (escrowId : U64) (caller : Address) (releaseToSeller : Bool) :
    EscrowTx host Bool := do
  caller.requireAuth env
  let s ← storage
  rejectIf (¬ isAdmin s caller) .unauthorized
  let record ← orReject (s.escrow escrowId) .notFound
  rejectIf (record.status ≠ .disputed) .notDisputed
  settleDispute escrowId record releaseToSeller caller

def releaseBlockReason (env : Env) (record : EscrowRecord) : Option Symbol :=
  match record.status with
  | .funded => if record.timeoutLedger.toInt ≤ env.sequence.toInt then some "timeout" else none
  | .released => some "released"
  | .refunded => some "refunded"
  | .disputed => some "disputed"

def getReleaseEligibility (env : Env) (s : Storage) (escrowId : U64) : ReleaseEligibility :=
  match s.escrow escrowId with
  | none => { escrowId := 0, eligible := false, reason := "notfound" }
  | some record =>
    let reason := (releaseBlockReason env record).getD "ok"
    { escrowId := record.orderId, eligible := reason = "ok", reason }

def getRefundEligibility (env : Env) (s : Storage) (escrowId : U64) (caller : Address) :
    RefundEligibility :=
  match s.escrow escrowId with
  | none => { escrowId, eligible := false, reason := "notfund" }
  | some record =>
    match record.status with
    | .released => { escrowId, eligible := false, reason := "released" }
    | .refunded => { escrowId, eligible := false, reason := "refunded" }
    | .disputed => { escrowId, eligible := false, reason := "disputed" }
    | .funded =>
      if caller = record.seller ∨ isAdmin s caller then { escrowId, eligible := true, reason := "ok" }
      else if caller = record.buyer then
        if record.timeoutLedger.toInt ≤ env.sequence.toInt then
          { escrowId, eligible := true, reason := "ok" }
        else { escrowId, eligible := false, reason := "timeout" }
      else { escrowId, eligible := false, reason := "noauth" }

def proposeAdmin (env : Env) (currentAdmin newAdmin : Address) : EscrowTx host Bool := do
  currentAdmin.requireAuth env
  let s ← storage
  let primaryAdmin ← orReject s.admin .notFound
  rejectIf (currentAdmin ≠ primaryAdmin) .unauthorized
  setStorage { s with pendingAdmin := some newAdmin }
  emit (.adminProposed currentAdmin newAdmin)
  return true

def acceptAdmin (env : Env) (newAdmin : Address) : EscrowTx host Bool := do
  newAdmin.requireAuth env
  let s ← storage
  let pendingAdmin ← orReject s.pendingAdmin .noPendingTransfer
  rejectIf (newAdmin ≠ pendingAdmin) .invalidPendingAdmin
  let adminList :=
    if newAdmin ∈ s.adminList.getD [] then some ((s.adminList.getD []).erase newAdmin)
    else s.adminList
  setStorage { s with adminList, admin := some newAdmin, pendingAdmin := none }
  emit (.adminAccepted newAdmin)
  return true

def cancelAdminTransfer (env : Env) (currentAdmin : Address) : EscrowTx host Bool := do
  currentAdmin.requireAuth env
  let s ← storage
  let primaryAdmin ← orReject s.admin .notFound
  rejectIf (currentAdmin ≠ primaryAdmin) .unauthorized
  rejectIf s.pendingAdmin.isNone .noPendingTransfer
  setStorage { s with pendingAdmin := none }
  emit (.adminTransferCancelled currentAdmin)
  return true

def addCoAdmin (env : Env) (admin newCoAdmin : Address) : EscrowTx host Bool := do
  admin.requireAuth env
  let s ← storage
  let primaryAdmin ← orReject s.admin .notFound
  rejectIf (admin ≠ primaryAdmin) .unauthorized
  rejectIf (newCoAdmin = primaryAdmin) .adminAlreadyExists
  let adminList := s.adminList.getD []
  rejectIf (newCoAdmin ∈ adminList) .adminAlreadyExists
  setStorage { s with adminList := some (adminList ++ [newCoAdmin]) }
  return true

def removeCoAdmin (env : Env) (admin coAdmin : Address) : EscrowTx host Bool := do
  admin.requireAuth env
  let s ← storage
  let primaryAdmin ← orReject s.admin .notFound
  rejectIf (admin ≠ primaryAdmin) .unauthorized
  let adminList := s.adminList.getD []
  rejectIf (coAdmin ∉ adminList) .notFound
  setStorage { s with adminList := some (adminList.erase coAdmin) }
  return true

def setCreatePaused (env : Env) (admin : Address) (paused : Bool) : EscrowTx host Bool := do
  admin.requireAuth env
  let s ← storage
  rejectIf (¬ isAdmin s admin) .unauthorized
  setStorage { s with
    pauseState := some { createPaused := paused, updatedBy := admin, updatedAtLedger := env.sequence } }
  emit (.pauseChanged paused admin env.sequence)
  return true

def perform (env : Env) : Call → EscrowTx host Value
  | .initializeContract admin feeBps treasury minAmount maxAmount =>
    .flag <$> initializeContract admin feeBps treasury minAmount maxAmount
  | .setLimits admin minAmount maxAmount => .flag <$> setLimits env admin minAmount maxAmount
  | .setQuorumConfig admin arbiters threshold => .flag <$> setQuorumConfig env admin arbiters threshold
  | .voteDispute escrowId arbiter releaseToSeller =>
    .flag <$> voteDispute env escrowId arbiter releaseToSeller
  | .resolveDisputeQuorum escrowId caller => .flag <$> resolveDisputeQuorum env escrowId caller
  | .updateFee admin newFeeBps => .flag <$> updateFee env admin newFeeBps
  | .addToken admin tokenAddress => .flag <$> addToken env admin tokenAddress
  | .removeToken admin tokenAddress => .flag <$> removeToken env admin tokenAddress
  | .deposit buyer seller token amount orderId timeoutLedgers =>
    .id <$> deposit env buyer seller token amount orderId timeoutLedgers
  | .release escrowId caller => .flag <$> release env escrowId caller
  | .refund escrowId caller => .flag <$> refund env escrowId caller
  | .dispute escrowId caller => .flag <$> dispute env escrowId caller
  | .resolveDispute escrowId caller releaseToSeller =>
    .flag <$> resolveDispute env escrowId caller releaseToSeller
  | .proposeAdmin currentAdmin newAdmin => .flag <$> proposeAdmin env currentAdmin newAdmin
  | .acceptAdmin newAdmin => .flag <$> acceptAdmin env newAdmin
  | .cancelAdminTransfer currentAdmin => .flag <$> cancelAdminTransfer env currentAdmin
  | .addCoAdmin admin newCoAdmin => .flag <$> addCoAdmin env admin newCoAdmin
  | .removeCoAdmin admin coAdmin => .flag <$> removeCoAdmin env admin coAdmin
  | .setCreatePaused admin paused => .flag <$> setCreatePaused env admin paused

end Delego.Escrow
