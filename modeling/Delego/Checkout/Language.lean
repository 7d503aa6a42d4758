import Delego.Checkout.Saga
import Delego.Payments.Idempotency

set_option autoImplicit false

namespace Delego.Checkout

open Shared Payments

def paymentsRequests (transport : Transport) (segment : Json → String) (context : CheckoutContext) :
    List HttpRequest :=
  depositRequest transport context ::
    if context.escrowId.truthy then [refundRequest transport segment context] else []

structure Understood (request : HttpRequest) : Prop where
  key : (validateIdempotencyKey request.headers request.operation.route).isOk = true
  body : ∃ body ∈ request.body, request.operation.validated body

def SpeaksLanguage (transport : Transport) (segment : Json → String) (context : CheckoutContext) :
    Prop :=
  ∀ request ∈ paymentsRequests transport segment context, Understood request

theorem lookup_transport (transport : Transport) {name : String} (other : name ∉ fetchHeaders) :
    transport.headers.lookup name = none := by
  have standard := transport.standard
  generalize transport.headers = headers at standard
  induction headers with
  | nil => rfl
  | cons header rest ih =>
    have different : name ≠ header.1 := fun same => other (same ▸ standard header List.mem_cons_self)
    rw [List.lookup_cons, beq_false_of_ne different]
    exact ih fun header member => standard header (List.mem_cons_of_mem _ member)

theorem paymentsRequest_unkeyed (transport : Transport) (operation : Operation) (body : Json) :
    idempotencyHeader (paymentsRequest transport operation body).headers = none := by
  have lower : transport.headers.lookup "idempotency-key" = none :=
    lookup_transport transport (by decide)
  have upper : transport.headers.lookup "Idempotency-Key" = none :=
    lookup_transport transport (by decide)
  simp [idempotencyHeader, paymentsRequest, List.lookup_cons, lower, upper]

def missingKey : ValidationError :=
  ⟨"MISSING_IDEMPOTENCY_KEY", "Idempotency-Key header is required for this route", none⟩

theorem paymentsRequest_missingKey (transport : Transport) (operation : Operation) (body : Json)
    (route : String) :
    validateIdempotencyKey (paymentsRequest transport operation body).headers route =
      .error missingKey := by
  rw [validateIdempotencyKey, paymentsRequest_unkeyed]
  rfl

/-- No request of a checkout is ever understood: each is rejected for want of the key that the
payments service demands. -/
theorem checkout_never_understood (transport : Transport) (segment : Json → String)
    (context : CheckoutContext) :
    ¬ SpeaksLanguage transport segment context ∧
      ∀ escrowContractId, ∀ request ∈ paymentsRequests transport segment context,
        admitted escrowContractId request = .error (sendValidationError missingKey) := by
  constructor
  · intro speaks
    have key := (speaks _ List.mem_cons_self).key
    rw [depositRequest, paymentsRequest_missingKey] at key
    cases key
  · intro escrowContractId request member
    have made : ∃ operation body, request = paymentsRequest transport operation body := by
      rcases List.mem_cons.mp member with rfl | refund
      · exact ⟨_, _, rfl⟩
      · split at refund
        · rw [List.mem_singleton.mp refund]
          exact ⟨_, _, rfl⟩
        · cases refund
    obtain ⟨operation, body, rfl⟩ := made
    rw [admitted, paymentsRequest_missingKey]

def sampleTransport : Transport where
  headers := [("host", .one "localhost:3014")]
  standard := by
    simp [fetchHeaders]

def sampleCheckout : CheckoutContext where
  orderId := "order-1"
  sourceAddress := sampleAddress
  buyerAddress := sampleAddress
  sellerAddress := sampleAddress
  escrowId := .null
  confirmed := false

-- Its fields are as the payments service wants them, and its deposit is still rejected.
theorem valid_checkout_rejected :
    (∃ body ∈ (depositRequest sampleTransport sampleCheckout).body,
        Operation.deposit.validated body) ∧
      ¬ SpeaksLanguage sampleTransport (fun _ => "7") sampleCheckout := by
  refine ⟨⟨_, rfl, ?_⟩, ?_⟩
  · change (validateDepositRequest _).isOk = true
    decide +kernel
  intro speaks
  have key := (speaks _ List.mem_cons_self).key
  revert key
  decide +kernel

end Delego.Checkout
