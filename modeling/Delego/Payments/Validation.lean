import Delego.Shared.Json

set_option autoImplicit false

namespace Delego.Payments

open Shared Shared.Text

structure ValidationError where
  code : String
  message : String
  field : Option String
  deriving DecidableEq

abbrev ValidationResult (α : Type) := Except ValidationError α

inductive HeaderValue where
  | one (value : String)
  | many (values : List String)
  deriving DecidableEq

abbrev Headers := List (String × HeaderValue)

structure IdempotencyContext where
  key : String
  route : String
  deriving DecidableEq

structure InitializeEscrowParams where
  sourceAddress : String
  adminAddress : String
  deriving DecidableEq

structure DepositEscrowParams where
  sourceAddress : String
  buyerAddress : String
  sellerAddress : String
  orderId : Option String
  deriving DecidableEq

structure SettleEscrowParams where
  sourceAddress : String
  escrowId : String
  deriving DecidableEq

-- The length of a string of the language, in 16-bit units.
def utf16Length (text : String) : Nat :=
  (text.toList.map fun c => if c.toNat < 0x10000 then 1 else 2).sum

def missingField (field : String) : ValidationError :=
  ⟨"VALIDATION_ERROR", "Missing required field: " ++ field, some field⟩

def invalidField (field message : String) : ValidationError :=
  ⟨"VALIDATION_ERROR", message, some field⟩

def idempotencyHeader (headers : Headers) : Option String :=
  let raw := (headers.lookup "idempotency-key").orElse fun _ => headers.lookup "Idempotency-Key"
  match raw with
  | some (.one value) => some value
  | some (.many values) => values.head?
  | none => none

def validateIdempotencyKey (headers : Headers) (route : String) : ValidationResult IdempotencyContext :=
  match (idempotencyHeader headers).filter fun key => key ≠ "" with
  | none =>
    .error ⟨"MISSING_IDEMPOTENCY_KEY", "Idempotency-Key header is required for this route", none⟩
  | some key =>
    if utf16Length key < 8 then
      .error (invalidField "Idempotency-Key" "Idempotency-Key must be at least 8 characters")
    else if 128 < utf16Length key then
      .error (invalidField "Idempotency-Key" "Idempotency-Key must be at most 128 characters")
    else if ¬ key.toList.all fun c => 0x21 ≤ c.toNat && c.toNat ≤ 0x7E then
      .error (invalidField "Idempotency-Key" "Idempotency-Key contains invalid characters")
    else .ok ⟨key, route⟩

-- An error that is thrown while a request is validated is not a validation error.
inductive Thrown where
  | invalid (error : ValidationError)
  | thrown (message : String)
  deriving DecidableEq

def readField (body : Json) (field : String) : Except Thrown (Option Json) :=
  match body.property field with
  | .error message => .error (.thrown message)
  | .ok value => .ok value

def requireString (body : Json) (field : String) : Except Thrown String := do
  match ← readField body field with
  | none | some .null => .error (.invalid (missingField field))
  | some (.string value) =>
    if trim value = "" then
      .error (.invalid (invalidField field (field ++ " must be a non-empty string")))
    else .ok (trim value)
  | some _ => .error (.invalid (invalidField field (field ++ " must be a non-empty string")))

-- A letter and 55 of the base-32 digits.
def isStrKey (version : Char) (address : String) : Bool :=
  match address.toList with
  | first :: rest =>
    first = version && rest.length = 55 &&
      rest.all fun c => ('A' ≤ c && c ≤ 'Z') || ('2' ≤ c && c ≤ '7')
  | [] => false

def isValidStellarAddress (address : String) : Bool := isStrKey 'G' address

def isValidContractId (contractId : String) : Bool := isStrKey 'C' contractId

def requireStellarAddress (body : Json) (field : String) : Except Thrown String := do
  let value ← requireString body field
  if isValidStellarAddress value then .ok value
  else .error (.invalid (invalidField field (field ++ " must be a valid Stellar account address")))

def requireEscrowId (escrowId : String) : Except Thrown String :=
  let value := trim escrowId
  if value = "" then .error (.invalid (missingField "escrowId"))
  else
    let id := Number.ofText value
    if ¬ id.isInteger ∨ id.negative then
      .error (.invalid (invalidField "escrowId" "escrowId must be a non-negative integer"))
    else .ok value

def validateEscrowContractConfig (escrowContractId : Option String) : ValidationResult String :=
  match escrowContractId.filter fun contractId => contractId ≠ "" with
  | none =>
    .error ⟨"CONFIG_ERROR", "ESCROW_CONTRACT_ID environment variable is not configured", none⟩
  | some contractId =>
    if isValidContractId contractId then .ok contractId
    else .error ⟨"CONFIG_ERROR", "ESCROW_CONTRACT_ID must be a valid Soroban contract address", none⟩

def validateInitializeRequest (body : Json) : Except Thrown InitializeEscrowParams := do
  let sourceAddress ← requireStellarAddress body "sourceAddress"
  let adminAddress ← requireStellarAddress body "adminAddress"
  .ok ⟨sourceAddress, adminAddress⟩

def validateDepositRequest (body : Json) : Except Thrown DepositEscrowParams := do
  let sourceAddress ← requireStellarAddress body "sourceAddress"
  let buyerAddress ← requireStellarAddress body "buyerAddress"
  let sellerAddress ← requireStellarAddress body "sellerAddress"
  match ← readField body "orderId" with
  | none | some .null => .ok ⟨sourceAddress, buyerAddress, sellerAddress, none⟩
  | some (.string orderId) =>
    if trim orderId = "" then
      .error (.invalid (invalidField "orderId" "orderId must be a non-empty string when provided"))
    else .ok ⟨sourceAddress, buyerAddress, sellerAddress, some (trim orderId)⟩
  | some _ =>
    .error (.invalid (invalidField "orderId" "orderId must be a non-empty string when provided"))

def validateSettleRequest (body : Json) (escrowId : String) : Except Thrown SettleEscrowParams := do
  let sourceAddress ← requireStellarAddress body "sourceAddress"
  let escrowId ← requireEscrowId escrowId
  .ok ⟨sourceAddress, escrowId⟩

def validateReleaseRequest (body : Json) (escrowId : String) : Except Thrown SettleEscrowParams :=
  validateSettleRequest body escrowId

def validateRefundRequest (body : Json) (escrowId : String) : Except Thrown SettleEscrowParams :=
  validateSettleRequest body escrowId

end Delego.Payments
