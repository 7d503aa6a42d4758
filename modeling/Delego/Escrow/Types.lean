import Delego.Soroban.Host

set_option autoImplicit false

namespace Delego.Escrow

open Shared Soroban

inductive EscrowStatus where
  | funded
  | released
  | refunded
  | disputed
  deriving DecidableEq

structure EscrowRecord where
  escrowId : U64
  buyer : Address
  seller : Address
  token : Address
  amount : I128
  status : EscrowStatus
  orderId : BytesN 32
  createdAt : U64
  timeoutLedger : U32
  deriving DecidableEq

structure EscrowPauseState where
  createPaused : Bool
  updatedBy : Address
  updatedAtLedger : U32
  deriving DecidableEq

structure FeeConfig where
  feeBps : U32
  treasury : Address
  deriving DecidableEq

structure EscrowAmountLimits where
  minAmount : I128
  maxAmount : I128
  deriving DecidableEq

structure QuorumConfig where
  arbiters : List Address
  threshold : U32
  deriving DecidableEq

structure DisputeVote where
  arbiter : Address
  releaseToSeller : Bool
  deriving DecidableEq

-- What a call publishes, and the transfers its token calls make, in order.
inductive EscrowEvent where
  | transfer (token source target : Address) (amount : I128)
  | created (escrowId : U64) (buyer seller token : Address) (amount : I128) (orderId : BytesN 32)
      (timeoutLedger : U32)
  | released (escrowId : U64) (seller : Address) (amount : I128) (releasedBy : Address)
  | refunded (escrowId : U64) (buyer : Address) (amount : I128) (refundedBy : Address)
  | disputed (escrowId : U64) (disputedBy : Address)
  | resolved (escrowId : U64) (releaseToSeller : Bool) (resolvedBy : Address)
  | adminProposed (currentAdmin newAdmin : Address)
  | adminAccepted (newAdmin : Address)
  | adminTransferCancelled (currentAdmin : Address)
  | pauseChanged (paused : Bool) (admin : Address) (ledger : U32)
  deriving DecidableEq

inductive EscrowError where
  | alreadyInitialized
  | notFound
  | unauthorized
  | alreadyReleased
  | alreadyRefunded
  | invalidStatus
  | timeoutNotReached
  | notDisputed
  | invalidAmount
  | tokenNotWhitelisted
  | noPendingTransfer
  | invalidPendingAdmin
  | adminAlreadyExists
  | invalidFeeBps
  | amountBelowMin
  | amountAboveMax
  | invalidLimits
  | notAnArbiter
  | alreadyVoted
  | invalidQuorum
  | quorumNotReached
  | quorumConfigNotSet
  | conflictingQuorum
  | creationPaused
  deriving DecidableEq

structure RefundEligibility where
  escrowId : U64
  eligible : Bool
  reason : Symbol
  deriving DecidableEq

-- Here `escrow_id` is the order id of the record, all zeros where there is none.
structure ReleaseEligibility where
  escrowId : BytesN 32
  eligible : Bool
  reason : Symbol
  deriving DecidableEq

-- One field for each kind of `DataKey`; `none` is a key that holds nothing.
structure Storage where
  admin : Option Address
  escrow : U64 → Option EscrowRecord
  lastEscrowId : Option U64
  pendingAdmin : Option Address
  adminList : Option (List Address)
  feeConfig : Option FeeConfig
  amountLimits : Option EscrowAmountLimits
  quorumConfig : Option QuorumConfig
  disputeVotes : U64 → Option (List DisputeVote)
  tokenWhitelist : Option (List Address)
  tokenEnabled : Address → Option Bool
  pauseState : Option EscrowPauseState

def Storage.empty : Storage where
  admin := none
  escrow _ := none
  lastEscrowId := none
  pendingAdmin := none
  adminList := none
  feeConfig := none
  amountLimits := none
  quorumConfig := none
  disputeVotes _ := none
  tokenWhitelist := none
  tokenEnabled _ := none
  pauseState := none

/-- What a call can change: the contract's storage and, through its token calls, the token ledgers. -/
structure Chain (host : Host) where
  storage : Storage
  ledger : host.Ledger

abbrev EscrowTx (host : Host) := Tx (Chain host) EscrowEvent EscrowError

inductive Call where
  | initializeContract (admin : Address) (feeBps : U32) (treasury : Address) (minAmount maxAmount : I128)
  | setLimits (admin : Address) (minAmount maxAmount : I128)
  | setQuorumConfig (admin : Address) (arbiters : List Address) (threshold : U32)
  | voteDispute (escrowId : U64) (arbiter : Address) (releaseToSeller : Bool)
  | resolveDisputeQuorum (escrowId : U64) (caller : Address)
  | updateFee (admin : Address) (newFeeBps : U32)
  | addToken (admin tokenAddress : Address)
  | removeToken (admin tokenAddress : Address)
  | deposit (buyer seller token : Address) (amount : I128) (orderId : BytesN 32) (timeoutLedgers : U32)
  | release (escrowId : U64) (caller : Address)
  | refund (escrowId : U64) (caller : Address)
  | dispute (escrowId : U64) (caller : Address)
  | resolveDispute (escrowId : U64) (caller : Address) (releaseToSeller : Bool)
  | proposeAdmin (currentAdmin newAdmin : Address)
  | acceptAdmin (newAdmin : Address)
  | cancelAdminTransfer (currentAdmin : Address)
  | addCoAdmin (admin newCoAdmin : Address)
  | removeCoAdmin (admin coAdmin : Address)
  | setCreatePaused (admin : Address) (paused : Bool)
  deriving DecidableEq

def Call.escrowId? : Call → Option U64
  | .voteDispute escrowId _ _ => some escrowId
  | .resolveDisputeQuorum escrowId _ => some escrowId
  | .release escrowId _ => some escrowId
  | .refund escrowId _ => some escrowId
  | .dispute escrowId _ => some escrowId
  | .resolveDispute escrowId _ _ => some escrowId
  | _ => none

def contractFunctions : List (String × Nat) :=
  [ ("initialize", 5), ("version", 0), ("set_limits", 3), ("get_limits", 0), ("set_quorum_config", 3),
    ("get_quorum_config", 0), ("vote_dispute", 3), ("get_dispute_votes", 1), ("resolve_dispute_quorum", 2),
    ("update_fee", 2), ("get_fee_config", 0), ("add_token", 2), ("remove_token", 2), ("is_token_allowed", 1),
    ("list_tokens", 0), ("deposit", 6), ("release", 2), ("refund", 2), ("dispute", 2), ("resolve_dispute", 3),
    ("get_release_eligibility", 1), ("get_escrow", 1), ("get_receipt", 1), ("propose_admin", 2),
    ("accept_admin", 1), ("cancel_admin_transfer", 1), ("add_co_admin", 2), ("remove_co_admin", 2),
    ("set_create_paused", 2), ("get_create_paused", 0), ("get_token", 1), ("get_refund_eligibility", 2),
    ("is_admin", 1) ]

def Call.function : Call → String × Nat
  | .initializeContract .. => ("initialize", 5)
  | .setLimits .. => ("set_limits", 3)
  | .setQuorumConfig .. => ("set_quorum_config", 3)
  | .voteDispute .. => ("vote_dispute", 3)
  | .resolveDisputeQuorum .. => ("resolve_dispute_quorum", 2)
  | .updateFee .. => ("update_fee", 2)
  | .addToken .. => ("add_token", 2)
  | .removeToken .. => ("remove_token", 2)
  | .deposit .. => ("deposit", 6)
  | .release .. => ("release", 2)
  | .refund .. => ("refund", 2)
  | .dispute .. => ("dispute", 2)
  | .resolveDispute .. => ("resolve_dispute", 3)
  | .proposeAdmin .. => ("propose_admin", 2)
  | .acceptAdmin .. => ("accept_admin", 1)
  | .cancelAdminTransfer .. => ("cancel_admin_transfer", 1)
  | .addCoAdmin .. => ("add_co_admin", 2)
  | .removeCoAdmin .. => ("remove_co_admin", 2)
  | .setCreatePaused .. => ("set_create_paused", 2)

theorem Call.function_mem (call : Call) : call.function ∈ contractFunctions := by
  cases call <;> simp [Call.function, contractFunctions]

inductive Value where
  | flag (answer : Bool)
  | id (escrowId : U64)
  | void
  deriving DecidableEq

end Delego.Escrow
