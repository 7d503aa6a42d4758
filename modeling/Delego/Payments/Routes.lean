import Delego.Payments.Validation

set_option autoImplicit false

namespace Delego.Payments

open Shared

inductive ContractArg where
  | address (value : String)
  | id (value : Number)
  deriving DecidableEq

structure TransactionRequest where
  sourceAddress : String
  contractId : String
  method : String
  args : List ContractArg
  memo : String
  deriving DecidableEq

structure TransactionResult where
  hash : String
  ledger : Nat
  success : Bool
  deriving DecidableEq

structure EscrowOperationResult where
  txHash : String
  ledger : Nat
  success : Bool
  escrowId : Option String
  deriving DecidableEq

def toEscrowResult (tx : TransactionResult) (escrowId : Option String) : EscrowOperationResult :=
  ⟨tx.hash, tx.ledger, tx.success, escrowId⟩

def parseEscrowId (escrowId : String) : Except String Number :=
  let id := Number.ofText escrowId
  if ¬ id.isInteger ∨ id.negative then .error ("Invalid escrow ID: " ++ escrowId) else .ok id

def getEscrowContractId (escrowContractId : Option String) : Except String String :=
  match escrowContractId.filter fun contractId => contractId ≠ "" with
  | none => .error "ESCROW_CONTRACT_ID environment variable is not configured"
  | some contractId => .ok contractId

def initializeCall (escrowContractId : Option String) (params : InitializeEscrowParams) :
    Except String TransactionRequest := do
  let contractId ← getEscrowContractId escrowContractId
  .ok
    { sourceAddress := params.sourceAddress
      contractId
      method := "initialize"
      args := [.address params.adminAddress]
      memo := "Initialize escrow contract" }

def depositCall (escrowContractId : Option String) (params : DepositEscrowParams) :
    Except String TransactionRequest := do
  let contractId ← getEscrowContractId escrowContractId
  .ok
    { sourceAddress := params.sourceAddress
      contractId
      method := "create_escrow"
      args := [.address params.buyerAddress, .address params.sellerAddress]
      memo := match params.orderId with
        | some orderId => "Deposit escrow for order " ++ orderId
        | none => "Deposit escrow funds" }

def releaseCall (escrowContractId : Option String) (params : SettleEscrowParams) :
    Except String TransactionRequest := do
  let contractId ← getEscrowContractId escrowContractId
  let escrowId ← parseEscrowId params.escrowId
  .ok
    { sourceAddress := params.sourceAddress
      contractId
      method := "release"
      args := [.id escrowId]
      memo := "Release escrow " ++ params.escrowId }

def refundCall (escrowContractId : Option String) (params : SettleEscrowParams) :
    Except String TransactionRequest := do
  let contractId ← getEscrowContractId escrowContractId
  let escrowId ← parseEscrowId params.escrowId
  .ok
    { sourceAddress := params.sourceAddress
      contractId
      method := "refund"
      args := [.id escrowId]
      memo := "Refund escrow " ++ params.escrowId }

inductive Operation where
  | deposit
  | release (escrowId : String)
  | refund (escrowId : String)
  deriving DecidableEq

def Operation.route : Operation → String
  | .deposit => "/escrow/deposit"
  | .release _ => "/escrow/:escrowId/release"
  | .refund _ => "/escrow/:escrowId/refund"

def Operation.failureCode : Operation → String
  | .deposit => "ESCROW_DEPOSIT_FAILED"
  | .release _ => "ESCROW_RELEASE_FAILED"
  | .refund _ => "ESCROW_REFUND_FAILED"

-- The body is what the JSON parser makes of the request's text, if it is JSON.
structure HttpRequest where
  operation : Operation
  headers : Headers
  body : Option Json

structure HttpReply where
  status : Nat
  result : Except ValidationError EscrowOperationResult

def validationStatusCode (code : String) : Nat := if code = "CONFIG_ERROR" then 503 else 400

def sendValidationError (error : ValidationError) : HttpReply :=
  ⟨validationStatusCode error.code, .error error⟩

def sendOperationError (code message : String) : HttpReply := ⟨400, .error ⟨code, message, none⟩⟩

def sendThrown (code : String) : Thrown → HttpReply
  | .invalid error => sendValidationError error
  | .thrown message => sendOperationError code message

structure Plan where
  call : Except String TransactionRequest
  escrowId : Option String

def plan (escrowContractId : Option String) (body : Json) : Operation → Except Thrown Plan
  | .deposit => do
    let params ← validateDepositRequest body
    .ok ⟨depositCall escrowContractId params, none⟩
  | .release escrowId => do
    let params ← validateReleaseRequest body escrowId
    .ok ⟨releaseCall escrowContractId params, some params.escrowId⟩
  | .refund escrowId => do
    let params ← validateRefundRequest body escrowId
    .ok ⟨refundCall escrowContractId params, some params.escrowId⟩

-- The checks of the three routes, in their order, up to the call of the service.
def admitted (escrowContractId : Option String) (request : HttpRequest) : Except HttpReply Plan :=
  match validateIdempotencyKey request.headers request.operation.route with
  | .error error => .error (sendValidationError error)
  | .ok _ =>
    match request.body with
    | none => .error (sendValidationError ⟨"VALIDATION_ERROR", "Invalid JSON body", none⟩)
    | some body =>
      match plan escrowContractId body request.operation with
      | .error thrown => .error (sendThrown request.operation.failureCode thrown)
      | .ok plan =>
        match validateEscrowContractConfig escrowContractId with
        | .error error => .error (sendValidationError error)
        | .ok _ => .ok plan

-- This route alone asks for no idempotency key.
def initializeAdmitted (escrowContractId : Option String) : Option Json → Except HttpReply Plan
  | none => .error (sendValidationError ⟨"VALIDATION_ERROR", "Invalid JSON body", none⟩)
  | some body =>
    match validateInitializeRequest body with
    | .error thrown => .error (sendThrown "ESCROW_INITIALIZE_FAILED" thrown)
    | .ok params =>
      match validateEscrowContractConfig escrowContractId with
      | .error error => .error (sendValidationError error)
      | .ok _ => .ok ⟨initializeCall escrowContractId params, none⟩

/-- The handling of one request: the call that is submitted, if any, and the reply. The answer of the
wallet service to that call is given. -/
def handle (escrowContractId : Option String) (request : HttpRequest)
    (submitContractCall : Except String TransactionResult) :
    Option TransactionRequest × HttpReply :=
  match admitted escrowContractId request with
  | .error reply => (none, reply)
  | .ok plan =>
    match plan.call with
    | .error message => (none, sendOperationError request.operation.failureCode message)
    | .ok call =>
      (some call,
        match submitContractCall with
        | .error message => sendOperationError request.operation.failureCode message
        | .ok tx => ⟨200, .ok (toEscrowResult tx plan.escrowId)⟩)

end Delego.Payments
