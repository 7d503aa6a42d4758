import Delego.Escrow.Step
import Delego.Payments.Idempotency
import Delego.Shared.Unwinding
import Delego.Wallet.TxQueue

set_option autoImplicit false

namespace Delego.Payments

open Shared Soroban

def respond (failureCode : String) (admitted : Except HttpReply Plan)
    (submitContractCall : Except String TransactionResult) : Option TransactionRequest × HttpReply :=
  match admitted with
  | .error reply => (none, reply)
  | .ok plan =>
    match plan.call with
    | .error message => (none, sendOperationError failureCode message)
    | .ok call =>
      (some call,
        match submitContractCall with
        | .error message => sendOperationError failureCode message
        | .ok tx => ⟨200, .ok (toEscrowResult tx plan.escrowId)⟩)

inductive EscrowRequest where
  | initializeEscrow (body : Option Json)
  | operation (request : HttpRequest)

def EscrowRequest.failureCode : EscrowRequest → String
  | .initializeEscrow _ => "ESCROW_INITIALIZE_FAILED"
  | .operation request => request.operation.failureCode

def EscrowRequest.admitted (escrowContractId : Option String) : EscrowRequest → Except HttpReply Plan
  | .initializeEscrow body => initializeAdmitted escrowContractId body
  | .operation request => Payments.admitted escrowContractId request

def EscrowRequest.handle (escrowContractId : Option String) (wallet : Except String TransactionResult) :
    EscrowRequest → Option TransactionRequest × HttpReply
  | .initializeEscrow body => respond "ESCROW_INITIALIZE_FAILED" (initializeAdmitted escrowContractId body) wallet
  | .operation request => Payments.handle escrowContractId request wallet

def EscrowRequest.call (escrowContractId : Option String) (request : EscrowRequest) : Option TransactionRequest :=
  match request.admitted escrowContractId with
  | .error _ => none
  | .ok plan => plan.call.toOption

/-- What the wallet service does about a call: it fails before the queue, or the last attempt at the job is
answered this, newest first; where that does not end the attempt, the reply to the payments service is lost. -/
inductive WalletWork where
  | failed (message : String)
  | attempted (attempt : Nat) (heard : List Wallet.TxQueue.Response) (lost : String)

-- The payments service names no user, wallet or amount.
def TransactionRequest.job (call : TransactionRequest) : Wallet.TxQueue.TransactionRequest :=
  ⟨call.sourceAddress, none, none, none, none⟩

def jobPhase (call : TransactionRequest) (attempt : Nat) (heard : List Wallet.TxQueue.Response) :
    Wallet.TxQueue.Phase :=
  heard.foldr (fun response phase => Wallet.TxQueue.executeTxJob call.job attempt phase response) .key

def WalletWork.answer (call : TransactionRequest) : WalletWork → Except String TransactionResult
  | .failed message => .error message
  | .attempted attempt heard lost =>
    match jobPhase call attempt heard with
    | .returned result => .ok ⟨result.hash, result.ledger, result.success⟩
    | .thrown (.error message) | .thrown (.unrecoverable message) => .error message
    | _ => .error lost

/-- The reply to a request; the wallet service is asked if there is a call. -/
def EscrowRequest.answered (escrowContractId : Option String) (request : EscrowRequest) (work : WalletWork) :
    Option TransactionRequest × HttpReply :=
  request.handle escrowContractId
    (match request.call escrowContractId with
    | some call => work.answer call
    | none => .error "")

/-- What happens to the contract: something that reaches it without the payments service, or a request to the
service with the wallet service's work and the ledgers that run the transaction, newest first (the
wallet service tries again after some failures). -/
inductive ChainInput (host : Host) where
  | direct (input : Escrow.Input host)
  | request (posted : EscrowRequest) (work : WalletWork) (ledgers : List Env)

def ChainInput.direct? {host : Host} : ChainInput host → Option (Escrow.Input host)
  | .direct input => some input
  | .request _ _ _ => none

/-- A transaction runs the function of the contract that it names, if it brings as many values as that takes. -/
def Dispatches (dispatch : String → List ContractArg → Option Escrow.Call) : Prop :=
  ∀ method args call, dispatch method args = some call → call.function = (method, args.length)

/-- The RPC server simulates a call with success only if the contract has the function. -/
def ChainInput.Simulated {host : Host} (escrowContractId : Option String) : ChainInput host → Prop
  | .direct _ | .request _ (.failed _) _ => True
  | .request posted (.attempted attempt heard _) _ => ∀ call ∈ posted.call escrowContractId,
    ∀ older buildSequence, .done :: older <:+ heard → jobPhase call attempt older = .prepare buildSequence →
      (call.method, call.args.length) ∈ Escrow.contractFunctions

section Chains

variable {host : Host} (dispatch : String → List ContractArg → Option Escrow.Call)
  (escrowContractId : Option String)

def runSubmitted (chain : Escrow.Chain host) (ledgers : List Env) (submitted : Option TransactionRequest) :
    Escrow.Chain host :=
  match submitted.bind fun call => dispatch call.method call.args with
  | none => chain
  | some call => Run.final (Escrow.step host) chain (ledgers.map fun env => .call ⟨env, call⟩)

def chainStep (chain : Escrow.Chain host) : ChainInput host → Option HttpReply × Escrow.Chain host
  | .direct input => (none, (Escrow.step host chain input).2)
  | .request posted work ledgers =>
    let (submitted, reply) := posted.answered escrowContractId work
    (some reply, runSubmitted dispatch chain ledgers submitted)

end Chains

def HttpReply.Refusal (reply : HttpReply) : Prop :=
  (reply.status = 400 ∨ reply.status = 503) ∧ ∃ error, reply.result = .error error

section Refusals

variable {escrowContractId : Option String} {request : EscrowRequest} {body : Json} {reply : HttpReply}
  {call : TransactionRequest}

theorem sendValidationError_refusal (error : ValidationError) : (sendValidationError error).Refusal := by
  constructor
  · unfold sendValidationError validationStatusCode
    split
    · right
      rfl
    · left
      rfl
  · exact ⟨error, rfl⟩

theorem sendOperationError_refusal (code message : String) : (sendOperationError code message).Refusal :=
  ⟨.inl rfl, _, rfl⟩

theorem sendThrown_refusal (code : String) (thrown : Thrown) : (sendThrown code thrown).Refusal := by
  cases thrown with
  | invalid error => exact sendValidationError_refusal error
  | thrown message => exact sendOperationError_refusal code message

inductive Checked (escrowContractId : Option String) : EscrowRequest → Except HttpReply Plan → Prop
  | refused {request : EscrowRequest} {reply : HttpReply} (refusal : reply.Refusal) :
      Checked escrowContractId request (.error reply)
  | initializeEscrow {body : Json} {params : InitializeEscrowParams} :
      Checked escrowContractId (.initializeEscrow (some body))
        (.ok ⟨initializeCall escrowContractId params, none⟩)
  | planned {request : HttpRequest} {body : Json} {plan' : Plan}
      (planned : plan escrowContractId body request.operation = .ok plan') :
      Checked escrowContractId (.operation request) (.ok plan')

theorem initialize_checked (escrowContractId : Option String) (body : Option Json) :
    Checked escrowContractId (.initializeEscrow body) (initializeAdmitted escrowContractId body) := by
  cases body with
  | none => exact .refused (sendValidationError_refusal _)
  | some body =>
    unfold initializeAdmitted
    dsimp only
    split
    · exact .refused (sendThrown_refusal ..)
    · split
      · exact .refused (sendValidationError_refusal _)
      · exact .initializeEscrow

theorem operation_checked (escrowContractId : Option String) (request : HttpRequest) :
    Checked escrowContractId (.operation request) (admitted escrowContractId request) := by
  unfold admitted
  split
  · exact .refused (sendValidationError_refusal _)
  · split
    · exact .refused (sendValidationError_refusal _)
    · split
      · exact .refused (sendThrown_refusal ..)
      · rename_i planned
        split
        · exact .refused (sendValidationError_refusal _)
        · exact .planned planned

theorem EscrowRequest.checked (escrowContractId : Option String) (request : EscrowRequest) :
    Checked escrowContractId request (request.admitted escrowContractId) := by
  cases request with
  | initializeEscrow body => exact initialize_checked escrowContractId body
  | operation request => exact operation_checked escrowContractId request

theorem EscrowRequest.handle_eq (escrowContractId : Option String) (wallet : Except String TransactionResult)
    (request : EscrowRequest) : request.handle escrowContractId wallet =
      respond request.failureCode (request.admitted escrowContractId) wallet := by
  cases request with
  | initializeEscrow body => rfl
  | operation request => rfl

def submittedFunctions : List (String × Nat) :=
  [("initialize", 1), ("create_escrow", 2), ("release", 1), ("refund", 1)]

theorem bind_ok {ε α β : Type} {first : Except ε α} {rest : α → Except ε β} {result : β}
    (done : first.bind rest = .ok result) : ∃ value, first = .ok value ∧ rest value = .ok result := by
  cases first with
  | error failure => cases done
  | ok value => exact ⟨value, rfl, done⟩

theorem initializeCall_submitted {params : InitializeEscrowParams}
    (made : initializeCall escrowContractId params = .ok call) :
    (call.method, call.args.length) ∈ submittedFunctions := by
  obtain ⟨contractId, _, made⟩ := bind_ok made
  cases made
  simp [submittedFunctions]

theorem depositCall_submitted {params : DepositEscrowParams}
    (made : depositCall escrowContractId params = .ok call) :
    (call.method, call.args.length) ∈ submittedFunctions := by
  obtain ⟨contractId, _, made⟩ := bind_ok made
  cases made
  simp [submittedFunctions]

theorem releaseCall_submitted {params : SettleEscrowParams}
    (made : releaseCall escrowContractId params = .ok call) :
    (call.method, call.args.length) ∈ submittedFunctions := by
  obtain ⟨contractId, _, made⟩ := bind_ok made
  obtain ⟨escrowId, _, made⟩ := bind_ok made
  cases made
  simp [submittedFunctions]

theorem refundCall_submitted {params : SettleEscrowParams}
    (made : refundCall escrowContractId params = .ok call) :
    (call.method, call.args.length) ∈ submittedFunctions := by
  obtain ⟨contractId, _, made⟩ := bind_ok made
  obtain ⟨escrowId, _, made⟩ := bind_ok made
  cases made
  simp [submittedFunctions]

theorem plan_submitted {plan' : Plan} {body : Json} {operation : Operation}
    (planned : plan escrowContractId body operation = .ok plan') (made : plan'.call = .ok call) :
    (call.method, call.args.length) ∈ submittedFunctions := by
  cases operation with
  | deposit =>
    obtain ⟨params, _, planned⟩ := bind_ok planned
    cases planned
    exact depositCall_submitted made
  | release escrowId =>
    obtain ⟨params, _, planned⟩ := bind_ok planned
    cases planned
    exact releaseCall_submitted made
  | refund escrowId =>
    obtain ⟨params, _, planned⟩ := bind_ok planned
    cases planned
    exact refundCall_submitted made

theorem Checked.submitted {admitted : Except HttpReply Plan} {plan' : Plan}
    (checked : Checked escrowContractId request admitted) (accepted : admitted = .ok plan')
    (made : plan'.call = .ok call) : (call.method, call.args.length) ∈ submittedFunctions := by
  cases checked with
  | refused => cases accepted
  | initializeEscrow =>
    cases accepted
    exact initializeCall_submitted made
  | planned planned =>
    cases accepted
    exact plan_submitted planned made

/-- None of the functions that the routes name is one of the contract that takes as many values. -/
theorem submitted_absent {function : String × Nat} (named : function ∈ submittedFunctions) :
    function ∉ Escrow.contractFunctions := by
  revert function
  decide

theorem handle_submitted {wallet : Except String TransactionResult}
    (submitted : (request.handle escrowContractId wallet).1 = some call) :
    (call.method, call.args.length) ∈ submittedFunctions := by
  have checked := request.checked escrowContractId
  rw [EscrowRequest.handle_eq] at submitted
  unfold respond at submitted
  cases accepted : request.admitted escrowContractId with
  | error reply => simp [accepted] at submitted
  | ok plan' =>
    cases made : plan'.call with
    | error message => simp [accepted, made] at submitted
    | ok call' =>
      simp only [accepted, made, Option.some.injEq] at submitted
      cases submitted
      exact checked.submitted accepted made

theorem handle_refusal {wallet : Except String TransactionResult}
    (reported : ∀ result, wallet = .ok result → (request.handle escrowContractId wallet).1 = none) :
    (request.handle escrowContractId wallet).2.Refusal := by
  have checked := request.checked escrowContractId
  rw [EscrowRequest.handle_eq] at reported ⊢
  unfold respond at reported ⊢
  cases accepted : request.admitted escrowContractId with
  | error reply =>
    rw [accepted] at checked
    cases checked with
    | refused refusal => exact refusal
  | ok plan' =>
    cases made : plan'.call with
    | error message => simpa only [made] using sendOperationError_refusal _ _
    | ok call =>
      cases wallet with
      | error message => simpa only [made] using sendOperationError_refusal _ _
      | ok result => simp [accepted, made] at reported

end Refusals

section Attempts

variable {call : TransactionRequest} {attempt : Nat} {heard : List Wallet.TxQueue.Response}

def simulated : Wallet.TxQueue.Phase → Bool
  | .send _ | .resetRejected _ | .poll .. | .record .. | .resetFailed .. | .verify .. | .returned _ => true
  | _ => false

theorem simulated_step {request : Wallet.TxQueue.TransactionRequest} {phase : Wallet.TxQueue.Phase}
    {response : Wallet.TxQueue.Response}
    (sent : simulated (Wallet.TxQueue.executeTxJob request attempt phase response) = true) :
    simulated phase = true ∨ (∃ buildSequence, phase = .prepare buildSequence) ∧ response = .done := by
  have advance := Wallet.TxQueue.executeTxJob_advance request attempt phase response
  generalize Wallet.TxQueue.executeTxJob request attempt phase response = next at advance sent
  cases advance with
  | stays => exact .inl sent
  | throws | misses | begins | retries | resets | loads | picks | saves => cases sent
  | prepares buildSequence => exact .inr ⟨⟨buildSequence, rfl⟩, rfl⟩
  | rejected | submits | waits | exhausts | fails | records | succeeds | finishes | verifies => exact .inl rfl

/-- An attempt that has got past the simulation has had it succeed. -/
theorem jobPhase_simulated (sent : simulated (jobPhase call attempt heard) = true) :
    ∃ older buildSequence, .done :: older <:+ heard ∧ jobPhase call attempt older = .prepare buildSequence := by
  induction heard with
  | nil => cases sent
  | cons response earlier ih =>
    have answered : simulated (Wallet.TxQueue.executeTxJob call.job attempt (jobPhase call attempt earlier)
        response) = true := sent
    rcases simulated_step answered with before | ⟨⟨buildSequence, preparing⟩, rfl⟩
    · obtain ⟨older, buildSequence, within, preparing⟩ := ih before
      exact ⟨older, buildSequence, within.trans (List.suffix_cons ..), preparing⟩
    · exact ⟨earlier, buildSequence, List.suffix_rfl, preparing⟩

theorem answer_ok {work : WalletWork} {result : TransactionResult} (reported : work.answer call = .ok result) :
    ∃ attempt heard lost, work = .attempted attempt heard lost ∧
      simulated (jobPhase call attempt heard) = true := by
  cases work with
  | failed message => cases reported
  | attempted attempt heard lost =>
    refine ⟨attempt, heard, lost, rfl, ?_⟩
    simp only [WalletWork.answer] at reported
    split at reported
    next returned =>
      rw [returned]
      rfl
    all_goals cases reported

theorem handle_call {request : EscrowRequest} {escrowContractId : Option String}
    {wallet : Except String TransactionResult} :
    (request.handle escrowContractId wallet).1 = request.call escrowContractId := by
  rw [EscrowRequest.handle_eq]
  unfold respond EscrowRequest.call
  cases request.admitted escrowContractId with
  | error reply => rfl
  | ok plan =>
    dsimp only
    cases plan.call <;> rfl

end Attempts

section Runs

variable {host : Host} {dispatch : String → List ContractArg → Option Escrow.Call}
  {escrowContractId : Option String}

theorem submitted_undispatched {request : EscrowRequest} {wallet : Except String TransactionResult}
    (dispatches : Dispatches dispatch) :
    ((request.handle escrowContractId wallet).1.bind fun call => dispatch call.method call.args) = none := by
  cases submitted : (request.handle escrowContractId wallet).1 with
  | none => rfl
  | some call =>
    cases dispatched : dispatch call.method call.args with
    | none => exact dispatched
    | some invoked =>
      have there := invoked.function_mem
      rw [dispatches _ _ _ dispatched] at there
      exact absurd there (submitted_absent (handle_submitted submitted))

theorem request_unmoved (dispatches : Dispatches dispatch) (chain : Escrow.Chain host)
    (request : EscrowRequest) (work : WalletWork) (ledgers : List Env) :
    (chainStep dispatch escrowContractId chain (.request request work ledgers)).2 = chain := by
  simp only [chainStep, runSubmitted, EscrowRequest.answered, submitted_undispatched dispatches]

theorem request_refused {request : EscrowRequest} {work : WalletWork} {ledgers : List Env}
    (honest : (ChainInput.request request work ledgers : ChainInput host).Simulated escrowContractId) :
    (request.answered escrowContractId work).2.Refusal := by
  apply handle_refusal
  intro result success
  rw [handle_call]
  cases submitted : request.call escrowContractId with
  | none => rfl
  | some call =>
    simp only [submitted] at success
    obtain ⟨attempt, heard, lost, rfl, sent⟩ := answer_ok success
    obtain ⟨older, buildSequence, within, preparing⟩ := jobPhase_simulated sent
    have there := honest call submitted older buildSequence within preparing
    rw [← @handle_call request escrowContractId (.error "")] at submitted
    exact absurd there (submitted_absent (handle_submitted submitted))

/-- Nothing that is asked of the payments service acts on the escrow contract: whatever else is done to the
contract ends as it would without the service, and every request to it is refused. -/
theorem payments_never_act (dispatch : String → List ContractArg → Option Escrow.Call)
    (dispatches : Dispatches dispatch) (escrowContractId : Option String) (start : Escrow.Chain host)
    (inputs : List (ChainInput host)) (simulated : ∀ input ∈ inputs, input.Simulated escrowContractId) :
    Run.final (chainStep dispatch escrowContractId) start inputs =
        Run.final (Escrow.step host) start (inputs.filterMap ChainInput.direct?) ∧
      ∀ receipt ∈ Run.history (chainStep dispatch escrowContractId) start inputs, ∀ reply,
        receipt.output = some reply → reply.Refusal := by
  constructor
  · apply Run.final_reaching
    · intro chain input passed reach
      cases input with
      | direct direct =>
        cases reach
        rfl
      | request => cases reach
    · intro chain input reach
      cases input with
      | direct => cases reach
      | request request work ledgers => exact request_unmoved dispatches chain request work ledgers
  · intro receipt member reply replied
    obtain ⟨input, older, within, rfl⟩ := (Run.mem_history _ _).mp member
    cases input with
    | direct => cases replied
    | request request work ledgers =>
      cases replied
      exact request_refused (simulated _ (within.subset (List.mem_cons_self ..)))

end Runs

def sampleDispatch : String → List ContractArg → Option Escrow.Call
  | "accept_admin", [.address _] => some (.acceptAdmin (.sample 1))
  | "release", [.id _, .address _] => some (.release (.lit 1) (.sample 3))
  | _, _ => none

def sampleRelease : HttpRequest where
  operation := .release "1"
  headers := [("idempotency-key", .one "order-0001")]
  body := some (.object [("sourceAddress", .string sampleAddress)])

def sampleLedgers : List Env :=
  [{ sequence := .lit 10, timestamp := .lit 520, signers := [.sample 3] },
    { sequence := .lit 9, timestamp := .lit 510, signers := [.sample 3] }]

-- The contract is set up, and a release is asked for under a name that the contract has for two values: the
-- simulation fails, and two ledgers run the transaction nevertheless.
def sampleChainInputs : List (ChainInput Escrow.sampleHost) :=
  [ .request (.operation sampleRelease)
      (.attempted 1 [.notSimulated "mismatching parameter length", .done, .cached none, .account 4, .done]
        "timeout")
      sampleLedgers,
    .direct (Escrow.sampleCall (.lit 8) (.sample 1)
      (.initializeContract (.sample 1) (.lit 250) (.sample 2) (.lit 1) (.lit 2000))) ]

theorem payments_never_act_sample :
    Run.final (chainStep sampleDispatch (some sampleContractId)) (Escrow.deployed Escrow.sampleLedger)
          sampleChainInputs =
        Run.final (Escrow.step Escrow.sampleHost) (Escrow.deployed Escrow.sampleLedger)
          (sampleChainInputs.filterMap ChainInput.direct?) ∧
      ∀ receipt ∈ Run.history (chainStep sampleDispatch (some sampleContractId))
          (Escrow.deployed Escrow.sampleLedger) sampleChainInputs, ∀ reply,
        receipt.output = some reply → reply.Refusal := by
  apply payments_never_act
  · intro method args call dispatched
    unfold sampleDispatch at dispatched
    split at dispatched
    · cases dispatched
      rfl
    · cases dispatched
      rfl
    · cases dispatched
  · intro input member
    rcases List.mem_cons.mp member with rfl | member
    · -- The only success that the server tells of is of an earlier call.
      intro call submitted older buildSequence within preparing
      simp only [List.suffix_cons_iff, List.cons.injEq, reduceCtorEq, false_and, true_and, false_or,
        List.suffix_nil, or_false] at within
      rcases within with rfl | rfl
      · cases preparing
      · cases preparing
    · rw [List.mem_singleton.mp member]
      trivial

end Delego.Payments
