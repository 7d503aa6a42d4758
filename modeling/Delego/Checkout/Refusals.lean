import Delego.Checkout.Deposits
import Delego.Checkout.Endpoints
import Delego.Checkout.Language
import Delego.Saga.Fruitless

set_option autoImplicit false

namespace Delego.Checkout

open Shared Payments Saga

def errorJson (error : ValidationError) : Json :=
  .object ([("code", .string error.code), ("message", .string error.message)] ++
    (error.field.map fun field => ("field", .string field)).toList)

def resultJson (result : EscrowOperationResult) : Json :=
  .object ([("txHash", .string result.txHash), ("ledger", .number (.finite result.ledger)),
    ("success", .bool result.success)] ++
      (result.escrowId.map fun escrowId => ("escrowId", .string escrowId)).toList)

def replyJson (reply : HttpReply) : Json :=
  match reply.result with
  | .ok result => .object [("data", resultJson result), ("error", .null)]
  | .error error => .object [("data", .null), ("error", errorJson error)]

def paymentsAnswer (escrowContractId : Option String) (request : HttpRequest)
    (wallet : Except String TransactionResult) : Answer :=
  let reply := (handle escrowContractId request wallet).2
  .json reply.status (replyJson reply)

/-- The payments service answers deposits as its routes do, if at all, and performs what its routes submit. -/
def Genuine (escrowContractId : Option String) (system : CheckoutSystem) : CheckoutInput → Prop
  | .saga _ => True
  | .respond id answer => ∀ current rest,
    (system.saga.runners id).phase = .working .advancing current "deposit-escrow" rest →
      (∃ message, answer = .unavailable message ∨ answer = .garbled message) ∨
        ∃ transport wallet,
          answer = paymentsAnswer escrowContractId (depositRequest transport current.context) wallet
  | .perform request _ => ∀ runner current, system.sent[request]? = some (.deposit runner current) →
    ∃ transport wallet,
      (handle escrowContractId (depositRequest transport current.context) wallet).1.isSome = true

structure NothingDone (system : CheckoutSystem) : Prop where
  records : ∀ sagaId record, system.saga.store sagaId = some record →
    record.status ≠ .completed ∧ record.completedSteps = []
  replies : ∀ id result, (system.saga.runners id).phase = .settled result → (checkoutReply result).status = 502
  performed : system.performed = []

section Steps

variable {text : Json → String} {claimLeaseMs : Nat → Nat} {escrowContractId : Option String}
  {system : CheckoutSystem} {context : CheckoutContext} {current : CheckoutRecord} {stepName : String}
  {rest : List String}

theorem deposit_unsubmitted (escrowContractId : Option String) (transport : Transport)
    (context : CheckoutContext) (wallet : Except String TransactionResult) :
    handle escrowContractId (depositRequest transport context) wallet =
      (none, sendValidationError missingKey) := by
  have refused : admitted escrowContractId (depositRequest transport context) =
      .error (sendValidationError missingKey) := by
    rw [admitted, depositRequest, paymentsRequest_missingKey]
  rw [handle, refused]

theorem deposit_refused (text : Json → String) (escrowContractId : Option String) (transport : Transport)
    (context asked : CheckoutContext) (wallet : Except String TransactionResult) :
    ∃ message, DepositEscrowStep.action text context
      (paymentsAnswer escrowContractId (depositRequest transport asked) wallet) = .error message := by
  rw [paymentsAnswer, deposit_unsubmitted]
  exact ⟨_, rfl⟩

theorem bare_deposit (bare : current.Bare)
    (ahead : Ahead checkoutSaga current (stepName :: rest) .advancing) : stepName = "deposit-escrow" := by
  have order := ahead.2
  rw [show current.completedSteps = [] from bare] at order
  simp only [List.nil_append, checkoutSaga, List.cons.injEq] at order
  exact order.1

structure Fruitless (system : CheckoutSystem) : Prop where
  formed : Formed checkoutSaga system.saga
  bare : system.saga.Bare
  tell : system.saga.Tell
  deposits : ∀ asked ∈ system.sent, ∃ runner current, asked = .deposit runner current
  performed : system.performed = []

theorem asks_deposits {id clock : Nat} {before after : Saga.Phase CheckoutContext}
    {store : SagaStore CheckoutContext} (sound : Sound checkoutSaga clock store after) (bare : after.Bare) :
    ∀ asked ∈ asks id before after, ∃ runner current, asked = .deposit runner current := by
  unfold asks
  split
  · split
    · simp
    · simp
  · have split := (Ahead.split sound.2.1).1
    rw [show _ = [] from bare] at split
    simp at split
  · simp

theorem saga_fruitless (fruitless : Fruitless system) (claimLeaseMs : Nat → Nat)
    (input : Saga.Input CheckoutContext) (unresolved : ¬ input.Resolves system.saga)
    {sent : List Asked} (deposits : ∀ asked ∈ sent, ∃ runner current, asked = .deposit runner current) :
    Fruitless { system with
      saga := (Saga.step checkoutSaga claimLeaseMs system.saga input).2
      sent } where
  formed := (step_systemStep claimLeaseMs fruitless.formed input).formed fruitless.formed
  bare := step_bare claimLeaseMs fruitless.formed fruitless.bare input unresolved
  tell := step_tell claimLeaseMs fruitless.formed fruitless.tell input
  deposits
  performed := fruitless.performed

theorem answer_unresolved {id : Nat} {answer : Answer} (fruitless : Fruitless system) {mode : Mode}
    (genuine : Genuine escrowContractId system (.respond id answer))
    (phase : (system.saga.runners id).phase = .working mode current stepName rest) :
    ¬ (Input.settle id (settledAs text current.context answer stepName mode)).Resolves system.saga := by
  intro resolved
  obtain ⟨current', stepName', rest', context, working, settled⟩ := resolved
  cases phase.symm.trans working
  have sound := fruitless.formed.sound id
  have bare := fruitless.bare.phases id
  rw [phase] at sound bare
  obtain rfl := bare_deposit bare sound.2.1
  rw [settledAs, if_pos rfl] at settled
  rcases genuine current rest phase with ⟨message, unavailable | garbled⟩ | ⟨transport, wallet, replied⟩
  · rw [unavailable] at settled
    cases settled
  · rw [garbled] at settled
    cases settled
  · obtain ⟨message, refused⟩ :=
      deposit_refused text escrowContractId transport current.context current.context wallet
    rw [replied, refused] at settled
    cases settled

theorem step_fruitless (fruitless : Fruitless system) (input : CheckoutInput)
    (genuine : Genuine escrowContractId system input) :
    Fruitless (checkoutStep text claimLeaseMs system input) := by
  cases input with
  | saga input =>
    cases input with
    | settle => exact fruitless
    | proceed id =>
      have after := saga_fruitless fruitless claimLeaseMs (.proceed id) not_false fruitless.deposits
      apply saga_fruitless fruitless claimLeaseMs (.proceed id) not_false
      intro asked member
      rcases List.mem_append.mp member with old | new
      · exact fruitless.deposits asked old
      · exact asks_deposits (after.formed.sound id) (after.bare.phases id) asked new
    | tick elapsedMs =>
      exact saga_fruitless fruitless claimLeaseMs (.tick elapsedMs) not_false fruitless.deposits
    | start id call => exact saga_fruitless fruitless claimLeaseMs (.start id call) not_false fruitless.deposits
    | fire id timer => exact saga_fruitless fruitless claimLeaseMs (.fire id timer) not_false fruitless.deposits
    | crash id => exact saga_fruitless fruitless claimLeaseMs (.crash id) not_false fruitless.deposits
  | respond id answer =>
    cases phase : (system.saga.runners id).phase with
    | working mode current stepName rest =>
      simp only [checkoutStep, phase]
      exact saga_fruitless fruitless claimLeaseMs _ (answer_unresolved fruitless genuine phase)
        fruitless.deposits
    | _ =>
      simp only [checkoutStep, phase]
      exact fruitless
  | perform request escrowId =>
    cases found : system.sent[request]? with
    | none =>
      simp only [checkoutStep, found]
      exact fruitless
    | some asked =>
      obtain ⟨runner, current, rfl⟩ := fruitless.deposits asked (List.mem_of_getElem? found)
      obtain ⟨transport, wallet, submitted⟩ := genuine runner current found
      rw [deposit_unsubmitted] at submitted
      cases submitted

end Steps

theorem run_fruitless (text : Json → String) (claimLeaseMs : Nat → Nat) (clock : Nat)
    (escrowContractId : Option String) (inputs : List CheckoutInput)
    (genuine : ∀ input older, input :: older <:+ inputs →
      Genuine escrowContractId (checkoutRun text claimLeaseMs clock older) input) :
    Fruitless (checkoutRun text claimLeaseMs clock inputs) := by
  induction inputs with
  | nil =>
    exact
      { formed := initial_formed checkoutSaga clock
        bare := initial_bare clock
        tell := fun _ => trivial
        deposits := by simp [checkoutRun]
        performed := rfl }
  | cons input earlier ih =>
    apply step_fruitless (ih _) input (genuine input earlier List.suffix_rfl)
    intro input older within
    exact genuine input older (within.trans (List.suffix_cons ..))

/-- With the payments service as it is, no checkout is ever completed: each deposit is refused for want of an
idempotency key, so that no step is ever done, nothing is submitted to the wallet service, and no deposit or
refund is performed. -/
theorem checkouts_never_complete (text : Json → String) (claimLeaseMs : Nat → Nat) (clock : Nat)
    (escrowContractId : Option String) (inputs : List CheckoutInput)
    (genuine : ∀ input older, input :: older <:+ inputs →
      Genuine escrowContractId (checkoutRun text claimLeaseMs clock older) input) :
    NothingDone (checkoutRun text claimLeaseMs clock inputs) := by
  have fruitless := run_fruitless text claimLeaseMs clock escrowContractId inputs genuine
  have uncompleted (sagaId : String) (record : CheckoutRecord)
      (found : (checkoutRun text claimLeaseMs clock inputs).saga.store sagaId = some record) :
      record.status ≠ .completed :=
    (fruitless.bare.rows sagaId record found).not_completed (fruitless.formed.storeOk.ok sagaId record found)
  refine { records := ?_, replies := ?_, performed := fruitless.performed }
  · intro sagaId record found
    exact ⟨uncompleted sagaId record found, fruitless.bare.rows sagaId record found⟩
  · intro id result phase
    cases result with
    | error message => rfl
    | ok record =>
      have told := fruitless.tell id
      rw [phase] at told
      have failed : record.status ≠ .completed := by
        intro completed
        exact uncompleted _ record (told (by simp [completed, SagaStatus.terminal])) completed
      simp [checkoutReply, failed]

def sampleContext : CheckoutContext := ⟨"order-1", "source", "buyer", "seller", .null, false⟩

def refusedCheckout : List CheckoutInput :=
  [ .saga (.proceed 0), .saga (.proceed 0),
    .respond 0 (paymentsAnswer none (depositRequest sampleTransport sampleContext) (.error "")),
    .saga (.proceed 0), .saga (.proceed 0), .saga (.proceed 0), .saga (.proceed 0),
    .saga (.start 0 sampleCall) ]

theorem checkouts_never_complete_sample :
    NothingDone (checkoutRun sampleText (fun _ => 30000) 0 refusedCheckout) := by
  apply checkouts_never_complete sampleText (fun _ => 30000) 0 none
  intro input older within
  simp only [refusedCheckout, List.suffix_cons_iff, List.suffix_nil, List.cons.injEq, reduceCtorEq, or_false]
    at within
  rcases within with ⟨rfl, rfl⟩ | ⟨rfl, rfl⟩ | ⟨rfl, rfl⟩ | ⟨rfl, rfl⟩ | ⟨rfl, rfl⟩ | ⟨rfl, rfl⟩ |
    ⟨rfl, rfl⟩ | ⟨rfl, rfl⟩
  · trivial
  · trivial
  · intro current rest phase
    cases phase
    exact .inr ⟨sampleTransport, .error "", rfl⟩
  · trivial
  · trivial
  · trivial
  · trivial
  · trivial

end Delego.Checkout
