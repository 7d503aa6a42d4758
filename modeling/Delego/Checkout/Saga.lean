import Delego.Payments.Routes
import Delego.Saga.Coordinator

set_option autoImplicit false

namespace Delego.Checkout

open Shared Payments

/-- The context of a checkout; the escrow id is whatever the payments service has sent. -/
structure CheckoutContext where
  orderId : String
  sourceAddress : String
  buyerAddress : String
  sellerAddress : String
  escrowId : Json
  confirmed : Bool

def checkoutWorkflow (orderId sourceAddress buyerAddress sellerAddress sagaId : String) :
    Saga.SagaCall CheckoutContext :=
  .run sagaId orderId
    { orderId, sourceAddress, buyerAddress, sellerAddress, escrowId := .null, confirmed := false }

-- The header names that `fetch` adds to a request by itself.
def fetchHeaders : List String :=
  [ "host", "connection", "accept", "accept-language", "sec-fetch-mode", "user-agent",
    "accept-encoding", "content-length" ]

structure Transport where
  headers : Headers
  standard : ∀ header ∈ headers, header.1 ∈ fetchHeaders

/-- The request that `callPaymentsService` sends, as the payments service receives it. -/
def paymentsRequest (transport : Transport) (operation : Operation) (body : Json) : HttpRequest where
  operation
  headers := ("content-type", .one "application/json") :: transport.headers
  body := some body

def depositRequest (transport : Transport) (context : CheckoutContext) : HttpRequest :=
  paymentsRequest transport .deposit (.object
    [ ("sourceAddress", .string context.sourceAddress),
      ("buyerAddress", .string context.buyerAddress),
      ("sellerAddress", .string context.sellerAddress), ("orderId", .string context.orderId) ])

-- `segment` is how the URL spells an escrow id.
def refundRequest (transport : Transport) (segment : Json → String) (context : CheckoutContext) :
    HttpRequest :=
  paymentsRequest transport (.refund (segment context.escrowId)) (.object
    [("sourceAddress", .string context.sourceAddress)])

inductive Answer where
  | unavailable (message : String)
  | garbled (message : String)
  | json (status : Nat) (body : Json)

def errorMessage (text : Json → String) (status : Nat) (error : Option Json) : String :=
  let message := match error with
    | none | some .null => none
    | some error => (error.property "message").toOption.join
  match message with
  | none | some .null => "Payments service returned status " ++ toString status
  | some message => text message

def callPaymentsService (text : Json → String) : Answer → Except String Json
  | .unavailable message => .error ("Payments service unavailable: " ++ message)
  | .garbled message => .error message
  | .json status body => do
    let error ← body.property "error"
    if ¬ (200 ≤ status ∧ status ≤ 299) ∨ error.any Json.truthy then
      .error (errorMessage text status error)
    else
      match (← body.property "data").filter Json.truthy with
      | none => .error "Payments service returned an empty response"
      | some data => .ok data

namespace DepositEscrowStep

def action (text : Json → String) (context : CheckoutContext) (answer : Answer) :
    Except String CheckoutContext := do
  let result ← callPaymentsService text answer
  match (← result.property "escrowId").filter Json.truthy with
  | none => .error "Payments service did not return an escrowId for the deposit"
  | some escrowId => .ok { context with escrowId }

-- Without an escrow id there is nothing to refund, and no request is sent.
def compensation (text : Json → String) (context : CheckoutContext) (answer : Answer) :
    Except String CheckoutContext :=
  if ¬ context.escrowId.truthy then .ok context
  else do
    let _ ← callPaymentsService text answer
    .ok { context with escrowId := .null }

end DepositEscrowStep

namespace ConfirmCheckoutStep

def action (context : CheckoutContext) : Except String CheckoutContext :=
  .ok { context with confirmed := true }

def compensation (context : CheckoutContext) : Except String CheckoutContext :=
  .ok { context with confirmed := false }

end ConfirmCheckoutStep

def checkoutSaga : Saga.SagaDefinition where
  stepOrder := ["deposit-escrow", "confirm-checkout"]
  nonempty := by
    decide
  distinct := by
    decide

end Delego.Checkout
