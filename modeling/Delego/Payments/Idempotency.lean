import Delego.Payments.Routes
import Mathlib.Data.List.Basic

set_option autoImplicit false

namespace Delego.Payments

open Shared Shared.Text

variable {escrowContractId : Option String} {request : HttpRequest} {body : Json}
  {params : SettleEscrowParams} {escrowId : String}

structure Attempt where
  request : HttpRequest
  performed : Bool
  answer : Except String TransactionResult

def Attempt.submission (escrowContractId : Option String) (attempt : Attempt) :
    Option TransactionRequest :=
  (handle escrowContractId attempt.request attempt.answer).1

def HttpRequest.identity (request : HttpRequest) : String × Option String :=
  (request.operation.route, idempotencyHeader request.headers)

def Attempt.succeeds (escrowContractId : Option String) (attempt : Attempt) : Bool :=
  (attempt.submission escrowContractId).isSome && attempt.performed

def ExactlyOnce (escrowContractId : Option String) (attempts : List Attempt) : Prop :=
  ∀ route key, (attempts.filter fun attempt =>
    attempt.request.identity = (route, some key) ∧
      attempt.succeeds escrowContractId = true).length ≤ 1

def Operation.validated (body : Json) : Operation → Prop
  | .deposit => (validateDepositRequest body).isOk = true
  | .release escrowId => (validateReleaseRequest body escrowId).isOk = true
  | .refund escrowId => (validateRefundRequest body escrowId).isOk = true

structure Passes (escrowContractId : Option String) (request : HttpRequest) : Prop where
  key : (validateIdempotencyKey request.headers request.operation.route).isOk = true
  body : ∃ body ∈ request.body, request.operation.validated body
  config : (validateEscrowContractConfig escrowContractId).isOk = true

theorem requireEscrowId_ok {id : String} (accepted : requireEscrowId escrowId = .ok id) :
    ∃ number, parseEscrowId id = .ok number := by
  unfold requireEscrowId at accepted
  by_cases blank : trim escrowId = ""
  · simp [blank] at accepted
  · by_cases bad : ¬ (Number.ofText (trim escrowId)).isInteger ∨ (Number.ofText (trim escrowId)).negative
    · simp only [blank, bad, if_true, if_false, reduceCtorEq] at accepted
    · simp only [blank, bad, if_false, Except.ok.injEq] at accepted
      subst accepted
      exact ⟨Number.ofText (trim escrowId), by simp only [parseEscrowId, bad, if_false]⟩

theorem validateSettleRequest_ok (accepted : validateSettleRequest body escrowId = .ok params) :
    ∃ number, parseEscrowId params.escrowId = .ok number := by
  unfold validateSettleRequest at accepted
  cases source : requireStellarAddress body "sourceAddress" with
  | error thrown => simp [source, bind, Except.bind] at accepted
  | ok sourceAddress =>
    cases id : requireEscrowId escrowId with
    | error thrown => simp [source, id, bind, Except.bind] at accepted
    | ok escrowId =>
      simp only [source, id, bind, Except.bind, Except.ok.injEq] at accepted
      subst accepted
      exact requireEscrowId_ok id

theorem config_contractId {contractId : String}
    (config : validateEscrowContractConfig escrowContractId = .ok contractId) :
    getEscrowContractId escrowContractId = .ok contractId := by
  unfold validateEscrowContractConfig at config
  unfold getEscrowContractId
  cases set : escrowContractId.filter fun contractId => contractId ≠ "" with
  | none => simp only [set, reduceCtorEq] at config
  | some held =>
    by_cases valid : isValidContractId held
    · simpa only [set, valid, if_true, Except.ok.injEq] using config
    · simp only [set, valid, Bool.false_eq_true, if_false, reduceCtorEq] at config

theorem plan_validated (operation : Operation) :
    operation.validated body ↔ ∃ plan', plan escrowContractId body operation = .ok plan' := by
  cases operation with
  | deposit =>
    cases result : validateDepositRequest body <;>
      simp [Operation.validated, plan, result, bind, Except.bind, Except.isOk, Except.toBool]
  | release escrowId =>
    cases result : validateReleaseRequest body escrowId <;>
      simp [Operation.validated, plan, result, bind, Except.bind, Except.isOk, Except.toBool]
  | refund escrowId =>
    cases result : validateRefundRequest body escrowId <;>
      simp [Operation.validated, plan, result, bind, Except.bind, Except.isOk, Except.toBool]

theorem plan_call {plan' : Plan} {contractId : String} {operation : Operation}
    (config : validateEscrowContractConfig escrowContractId = .ok contractId)
    (planned : plan escrowContractId body operation = .ok plan') :
    ∃ call, plan'.call = .ok call := by
  have contract := config_contractId config
  cases operation with
  | deposit =>
    cases result : validateDepositRequest body with
    | error thrown => simp [plan, result, bind, Except.bind] at planned
    | ok params =>
      simp only [plan, result, bind, Except.bind, Except.ok.injEq] at planned
      subst planned
      simp only [depositCall, contract, bind, Except.bind]
      exact ⟨_, rfl⟩
  | release escrowId =>
    cases result : validateReleaseRequest body escrowId with
    | error thrown => simp [plan, result, bind, Except.bind] at planned
    | ok params =>
      obtain ⟨number, parsed⟩ := validateSettleRequest_ok result
      simp only [plan, result, bind, Except.bind, Except.ok.injEq] at planned
      subst planned
      simp only [releaseCall, contract, parsed, bind, Except.bind]
      exact ⟨_, rfl⟩
  | refund escrowId =>
    cases result : validateRefundRequest body escrowId with
    | error thrown => simp [plan, result, bind, Except.bind] at planned
    | ok params =>
      obtain ⟨number, parsed⟩ := validateSettleRequest_ok result
      simp only [plan, result, bind, Except.bind, Except.ok.injEq] at planned
      subst planned
      simp only [refundCall, contract, parsed, bind, Except.bind]
      exact ⟨_, rfl⟩

theorem isOk_iff {ε α : Type} (result : Except ε α) :
    result.isOk = true ↔ ∃ value, result = .ok value := by
  cases result <;> simp [Except.isOk, Except.toBool]

theorem submission_iff (attempt : Attempt) :
    (attempt.submission escrowContractId).isSome = true ↔
      Passes escrowContractId attempt.request := by
  unfold Attempt.submission handle admitted
  constructor
  · intro submitted
    cases key : validateIdempotencyKey attempt.request.headers attempt.request.operation.route with
    | error error => simp [key] at submitted
    | ok context =>
      cases body : attempt.request.body with
      | none => simp [key, body] at submitted
      | some body' =>
        cases planned : plan escrowContractId body' attempt.request.operation with
        | error thrown => simp [key, body, planned] at submitted
        | ok plan' =>
          cases config : validateEscrowContractConfig escrowContractId with
          | error error => simp [key, body, planned, config] at submitted
          | ok contractId =>
            exact ⟨by simp [key, Except.isOk, Except.toBool],
              ⟨body', body, (plan_validated _).mpr ⟨plan', planned⟩⟩,
              by simp [config, Except.isOk, Except.toBool]⟩
  · rintro ⟨key, ⟨body, present, validated⟩, config⟩
    obtain ⟨context, key⟩ := (isOk_iff _).mp key
    obtain ⟨contractId, config⟩ := (isOk_iff _).mp config
    have planning : ∃ plan', plan escrowContractId body attempt.request.operation = .ok plan' :=
      (plan_validated _).mp validated
    obtain ⟨plan', planned⟩ := planning
    obtain ⟨call, callable⟩ := plan_call config planned
    simp only [key, Option.mem_def.mp present, planned, config, callable, Option.isSome_some]

theorem Passes.identity (passes : Passes escrowContractId request) :
    ∃ key, request.identity = (request.operation.route, some key) := by
  obtain ⟨context, validated⟩ := (isOk_iff _).mp passes.key
  unfold validateIdempotencyKey at validated
  unfold HttpRequest.identity
  cases given : idempotencyHeader request.headers with
  | none => simp [given] at validated
  | some key => exact ⟨key, rfl⟩

theorem filter_length_le_one {α : Type} (p : α → Bool) (items : List α) :
    (items.filter p).length ≤ 1 ↔ items.Pairwise fun a b => ¬ (p a = true ∧ p b = true) := by
  induction items with
  | nil => simp
  | cons item rest ih =>
    rw [List.pairwise_cons, ← ih]
    by_cases here : p item = true
    · simp only [List.filter_cons_of_pos here, List.length_cons, here, true_and]
      constructor
      · intro few
        have none : rest.filter p = [] := List.length_eq_zero_iff.mp (by omega)
        exact ⟨fun other member holds => List.filter_eq_nil_iff.mp none other member holds,
          by simp [none]⟩
      · rintro ⟨no, _⟩
        have none : rest.filter p = [] := List.filter_eq_nil_iff.mpr no
        simp [none]
    · simp [List.filter_cons_of_neg here, here]

theorem succeeds_iff (attempt : Attempt) : attempt.succeeds escrowContractId = true ↔
    Passes escrowContractId attempt.request ∧ attempt.performed = true := by
  rw [Attempt.succeeds, Bool.and_eq_true, submission_iff]

theorem exactlyOnce_of_apart {attempts : List Attempt}
    (apart : attempts.Pairwise fun a b => ¬ (a.request.identity = b.request.identity ∧
      (Passes escrowContractId a.request ∧ a.performed = true) ∧
        Passes escrowContractId b.request ∧ b.performed = true)) :
    ExactlyOnce escrowContractId attempts := by
  simp only [ExactlyOnce, filter_length_le_one, decide_eq_true_eq, succeeds_iff]
  intro route key
  refine apart.imp ?_
  rintro a b different ⟨⟨same, passes⟩, same', passes'⟩
  exact different ⟨same.trans same'.symm, passes, passes'⟩

theorem exactlyOnce_of_unrepeated {attempts : List Attempt}
    (unrepeated : attempts.Pairwise fun a b => a.request.identity = b.request.identity →
      Passes escrowContractId a.request → ¬ Passes escrowContractId b.request) :
    ExactlyOnce escrowContractId attempts := by
  apply exactlyOnce_of_apart
  refine unrepeated.imp ?_
  rintro a b different ⟨same, ⟨passes, _⟩, passes', _⟩
  exact different same passes passes'

/-- The key of a request keeps no second call from being made: the calls for one route and key
succeed at most once exactly if no two such requests pass the checks with calls that succeed. -/
theorem exactlyOnce_iff (escrowContractId : Option String) (attempts : List Attempt) :
    ExactlyOnce escrowContractId attempts ↔
      attempts.Pairwise fun a b => ¬ (a.request.identity = b.request.identity ∧
        (Passes escrowContractId a.request ∧ a.performed = true) ∧
          Passes escrowContractId b.request ∧ b.performed = true) := by
  constructor
  · intro once
    simp only [ExactlyOnce, filter_length_le_one, decide_eq_true_eq, succeeds_iff] at once
    rw [List.pairwise_iff_getElem]
    rintro i j first second before ⟨same, passes, passes'⟩
    obtain ⟨key, identity⟩ := passes.1.identity
    have apart := List.pairwise_iff_getElem.mp (once attempts[i].request.operation.route key) i j first
      second before
    exact apart ⟨⟨identity, passes⟩, same.symm.trans identity, passes'⟩
  · exact exactlyOnce_of_apart

def sampleAddress : String := "GAAAAAAAAAAAAAAAAAAAAAAAAAAAAAAAAAAAAAAAAAAAAAAAAAAAAAAA"

def sampleContractId : String := "CAAAAAAAAAAAAAAAAAAAAAAAAAAAAAAAAAAAAAAAAAAAAAAAAAAAAAAA"

def sampleDeposit : HttpRequest where
  operation := .deposit
  headers := [("idempotency-key", .one "order-0001")]
  body := some (.object
    [ ("sourceAddress", .string sampleAddress), ("buyerAddress", .string sampleAddress),
      ("sellerAddress", .string sampleAddress), ("orderId", .string "1") ])

-- The reply to the first attempt is lost, and the client repeats the request.
def repeatedDeposit : List Attempt :=
  [⟨sampleDeposit, true, .ok ⟨"aa", 7, true⟩⟩, ⟨sampleDeposit, true, .ok ⟨"bb", 8, true⟩⟩]

theorem repeated_deposit_submitted_twice :
    ¬ ExactlyOnce (some sampleContractId) repeatedDeposit := by
  intro once
  have few := once "/escrow/deposit" "order-0001"
  revert few
  decide +kernel

end Delego.Payments
