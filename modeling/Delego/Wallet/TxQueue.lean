import Delego.Shared.Number
import Delego.Wallet.SubmissionFailure

set_option autoImplicit false

namespace Delego.Wallet.TxQueue

open Shared Shared.Text

/-- The part of a request that the worker itself looks at. -/
structure TransactionRequest where
  sourceAddress : String
  userId : Option String
  walletId : Option String
  delegationId : Option String
  amountStroops : Option String

structure TransactionResult where
  hash : String
  ledger : Nat
  success : Bool
  deriving DecidableEq

structure SendTransactionResponse where
  status : String
  hash : String
  json : String

inductive GetTransactionResponse where
  | success (ledger : Nat)
  | failed (resultXdr : String)
  | notFound

inductive Thrown where
  | error (message : String)
  | unrecoverable (message : String)
  deriving DecidableEq

structure Spend where
  userId : String
  walletId : String
  amount : Int
  deriving DecidableEq

inductive Phase where
  | key
  | reset
  | account
  | cached (ledgerSequence : Int)
  | save (nextSequence : Int)
  | prepare (buildSequence : Int)
  | send (sequence : Int)
  | resetRejected (message : String)
  | poll (txHash status : String) (retries : Nat)
  | record (txHash : String) (ledger : Nat) (spend : Spend)
  | resetFailed (txHash message : String)
  | verify (txHash status : String)
  | returned (result : TransactionResult)
  | thrown (error : Thrown)

/-- What a call is answered: a failure is given by the message of what it throws. -/
inductive Response where
  | failed (message : String)
  | done
  | account (sequenceNumber : Int)
  | cached (sequence : Option Int)
  | notSimulated (json : String)
  | sent (reply : SendTransactionResponse)
  | status (reply : GetTransactionResponse)

def spendOf (request : TransactionRequest) : Option Spend := do
  let userId ← truthy request.userId
  let walletId ← truthy request.walletId
  let amountStroops ← truthy request.amountStroops
  let amount ← Number.bigInt amountStroops
  if 0 < amount then some ⟨userId, walletId, amount⟩ else none

def nextSequence (ledgerSequence : Int) : Option Int → Int
  | some cachedSequence =>
    if cachedSequence ≥ ledgerSequence then cachedSequence + 1 else ledgerSequence + 1
  | none => ledgerSequence + 1

def throwClassifiedSubmissionFailure (failure : SubmissionFailure) : Thrown :=
  if failure.retryable then .error failure.message
  else .unrecoverable (failure.code ++ ": " ++ failure.message)

-- What is thrown once the transaction is being built is classified first.
def caught (message : String) (txHash : Option String) : Phase :=
  .thrown (throwClassifiedSubmissionFailure (classifySubmissionFailure message txHash))

def badSequence (text : String) : Bool := includes text "tx_bad_seq" || includes text "bad_seq"

/-- The steps of `executeTxJob`, from one awaited answer to the next call. An answer of another kind
than the one that is awaited changes nothing. -/
def executeTxJob (request : TransactionRequest) (attempt : Nat) : Phase → Response → Phase
  | .key, .failed message => .thrown (.error message)
  | .key, .done => if attempt > 1 then .reset else .account
  | .reset, .failed message => .thrown (.error message)
  | .reset, .done => .account
  | .account, .failed message => .thrown (.error message)
  | .account, .account sequenceNumber => .cached sequenceNumber
  | .cached _, .failed message => .thrown (.error message)
  | .cached ledgerSequence, .cached sequence => .save (nextSequence ledgerSequence sequence)
  | .save _, .failed message => .thrown (.error message)
  | .save nextSequence, .done => .prepare (nextSequence - 1)
  -- The builder takes the number after the one it is given.
  | .prepare buildSequence, .done => .send (buildSequence + 1)
  | .prepare _, .notSimulated json => caught ("Transaction simulation failed: " ++ json) none
  | .prepare _, .failed message => caught message none
  | .send _, .failed message => caught message none
  | .send _, .sent reply =>
    if reply.status = "ERROR" then
      if badSequence reply.json then .resetRejected ("Submission failed: " ++ reply.json)
      else caught ("Submission failed: " ++ reply.json) none
    else .poll reply.hash reply.status 12
  | .resetRejected message, .done => caught message none
  | .resetRejected _, .failed message => caught message none
  | .poll txHash _ _, .failed message => caught message txHash
  | .poll txHash _ _, .status (.success ledger) =>
    match spendOf request with
    | some spend => .record txHash ledger spend
    | none => .returned ⟨txHash, ledger, true⟩
  | .poll txHash _ _, .status (.failed resultXdr) =>
    if badSequence resultXdr then .resetFailed txHash ("Transaction failed: " ++ resultXdr)
    else caught ("Transaction failed: " ++ resultXdr) txHash
  | .poll txHash status retries, .status .notFound =>
    if retries - 1 > 0 then .poll txHash status (retries - 1) else .verify txHash status
  -- A failure to record the spend is only logged.
  | .record txHash ledger _, .done => .returned ⟨txHash, ledger, true⟩
  | .record txHash ledger _, .failed _ => .returned ⟨txHash, ledger, true⟩
  | .resetFailed txHash message, .done => caught message txHash
  | .resetFailed txHash _, .failed message => caught message txHash
  | .verify txHash _, .done => .returned ⟨txHash, 0, true⟩
  | .verify txHash status, .failed _ =>
    caught ("Transaction timeout or status untracked: " ++ status) txHash
  | phase, _ => phase

-- Whatever is thrown before the ledger check is thrown in one of these phases.
def Phase.unconfirmed : Phase → Bool
  | .record .. | .verify .. | .returned _ | .thrown _ => false
  | _ => true

inductive Advance (request : TransactionRequest) : Phase → Response → Phase → Prop where
  | stays (phase : Phase) (response : Response) (other : ∀ hash status, phase = .verify hash status →
      response ≠ .done) : Advance request phase response phase
  | throws (phase : Phase) (response : Response) (error : Thrown)
      (unconfirmed : phase.unconfirmed = true) : Advance request phase response (.thrown error)
  | misses (txHash status message : String) (error : Thrown) :
    Advance request (.verify txHash status) (.failed message) (.thrown error)
  | begins : Advance request .key .done .account
  | retries : Advance request .key .done .reset
  | resets : Advance request .reset .done .account
  | loads (sequenceNumber : Int) :
    Advance request .account (.account sequenceNumber) (.cached sequenceNumber)
  | picks (ledgerSequence : Int) (sequence : Option Int) :
    Advance request (.cached ledgerSequence) (.cached sequence)
      (.save (nextSequence ledgerSequence sequence))
  | saves (nextSequence : Int) :
    Advance request (.save nextSequence) .done (.prepare (nextSequence - 1))
  | prepares (buildSequence : Int) :
    Advance request (.prepare buildSequence) .done (.send (buildSequence + 1))
  | rejected (sequence : Int) (reply : SendTransactionResponse) (message : String) :
    Advance request (.send sequence) (.sent reply) (.resetRejected message)
  | submits (sequence : Int) (reply : SendTransactionResponse) (retries : Nat) :
    Advance request (.send sequence) (.sent reply) (.poll reply.hash reply.status retries)
  | waits (txHash status : String) (retries left : Nat) :
    Advance request (.poll txHash status retries) (.status .notFound) (.poll txHash status left)
  | exhausts (txHash status : String) (retries : Nat) :
    Advance request (.poll txHash status retries) (.status .notFound) (.verify txHash status)
  | fails (txHash status resultXdr message : String) (retries : Nat) :
    Advance request (.poll txHash status retries) (.status (.failed resultXdr))
      (.resetFailed txHash message)
  | records (txHash status : String) (retries ledger : Nat) (spend : Spend)
      (spends : spendOf request = some spend) :
    Advance request (.poll txHash status retries) (.status (.success ledger))
      (.record txHash ledger spend)
  | succeeds (txHash status : String) (retries ledger : Nat) (unspent : spendOf request = none) :
    Advance request (.poll txHash status retries) (.status (.success ledger))
      (.returned ⟨txHash, ledger, true⟩)
  | finishes (txHash : String) (ledger : Nat) (spend : Spend) (response : Response) :
    Advance request (.record txHash ledger spend) response (.returned ⟨txHash, ledger, true⟩)
  | verifies (txHash status : String) :
    Advance request (.verify txHash status) .done (.returned ⟨txHash, 0, true⟩)

theorem executeTxJob_advance (request : TransactionRequest) (attempt : Nat) (phase : Phase)
    (response : Response) :
    Advance request phase response (executeTxJob request attempt phase response) := by
  cases phase with
  | key =>
    cases response with
    | failed message => exact .throws _ _ _ rfl
    | done =>
      by_cases retry : attempt > 1
      · simp only [executeTxJob, retry, if_true]
        exact .retries
      · simp only [executeTxJob, retry, if_false]
        exact .begins
    | account | cached | notSimulated | sent | status => exact .stays _ _ nofun
  | reset =>
    cases response with
    | failed message => exact .throws _ _ _ rfl
    | done => exact .resets
    | account | cached | notSimulated | sent | status => exact .stays _ _ nofun
  | account =>
    cases response with
    | failed message => exact .throws _ _ _ rfl
    | account sequenceNumber => exact .loads _
    | done | cached | notSimulated | sent | status => exact .stays _ _ nofun
  | cached ledgerSequence =>
    cases response with
    | failed message => exact .throws _ _ _ rfl
    | cached sequence => exact .picks _ _
    | done | account | notSimulated | sent | status => exact .stays _ _ nofun
  | save nextSequence =>
    cases response with
    | failed message => exact .throws _ _ _ rfl
    | done => exact .saves _
    | account | cached | notSimulated | sent | status => exact .stays _ _ nofun
  | prepare buildSequence =>
    cases response with
    | failed | notSimulated => exact .throws _ _ _ rfl
    | done => exact .prepares _
    | account | cached | sent | status => exact .stays _ _ nofun
  | send sequence =>
    cases response with
    | failed message => exact .throws _ _ _ rfl
    | sent reply =>
      by_cases refused : reply.status = "ERROR"
      · by_cases sequenceError : badSequence reply.json = true
        · simp only [executeTxJob, refused, sequenceError, if_true]
          exact .rejected _ _ _
        · simp only [executeTxJob, refused, sequenceError, Bool.false_eq_true, if_true, if_false]
          exact .throws _ _ _ rfl
      · simp only [executeTxJob, refused, if_false]
        exact .submits _ _ _
    | done | account | cached | notSimulated | status => exact .stays _ _ nofun
  | resetRejected message =>
    cases response with
    | failed | done => exact .throws _ _ _ rfl
    | account | cached | notSimulated | sent | status => exact .stays _ _ nofun
  | poll txHash status retries =>
    cases response with
    | failed message => exact .throws _ _ _ rfl
    | status reply =>
      cases reply with
      | success ledger =>
        cases spends : spendOf request with
        | none =>
          simp only [executeTxJob, spends]
          exact .succeeds _ _ _ _ spends
        | some spend =>
          simp only [executeTxJob, spends]
          exact .records _ _ _ _ _ spends
      | failed resultXdr =>
        by_cases sequenceError : badSequence resultXdr = true
        · simp only [executeTxJob, sequenceError, if_true]
          exact .fails _ _ _ _ _
        · simp only [executeTxJob, sequenceError, Bool.false_eq_true, if_false]
          exact .throws _ _ _ rfl
      | notFound =>
        by_cases more : retries - 1 > 0
        · simp only [executeTxJob, more, if_true]
          exact .waits _ _ _ _
        · simp only [executeTxJob, more, if_false]
          exact .exhausts _ _ _
    | done | account | cached | notSimulated | sent => exact .stays _ _ nofun
  | record txHash ledger spend =>
    cases response with
    | failed | done => exact .finishes _ _ _ _
    | account | cached | notSimulated | sent | status => exact .stays _ _ nofun
  | resetFailed txHash message =>
    cases response with
    | failed | done => exact .throws _ _ _ rfl
    | account | cached | notSimulated | sent | status => exact .stays _ _ nofun
  | verify txHash status =>
    cases response with
    | failed message => exact .misses _ _ _ _
    | done => exact .verifies _ _
    | account | cached | notSimulated | sent | status => exact .stays _ _ nofun
  | returned | thrown => cases response <;> exact .stays _ _ nofun

/-- A job of the queue, with the attempts that have failed so far. -/
inductive Job where
  | waiting (attemptsMade : Nat)
  | active (attemptsMade : Nat) (phase : Phase)
  | completed (result : TransactionResult)
  | failed (failedReason : String)

-- `defaultJobOptions.attempts`
def attempts : Nat := 5

-- What the queue makes of an attempt: one that threw is made again, unless it cannot help.
def settled (attemptsMade : Nat) : Phase → Job
  | .returned result => .completed result
  | .thrown (.unrecoverable message) => .failed message
  | .thrown (.error message) =>
    if attemptsMade + 1 < attempts then .waiting (attemptsMade + 1) else .failed message
  | phase => .active attemptsMade phase

def sampleRequest : TransactionRequest where
  sourceAddress := "GA"
  userId := some "user"
  walletId := some "wallet"
  delegationId := none
  amountStroops := some "10"

end Delego.Wallet.TxQueue
