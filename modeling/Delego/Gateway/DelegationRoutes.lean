import Delego.Shared.JsonSchema
import Delego.Shared.Run
import Delego.Gateway.DelegationOwnership

set_option autoImplicit false

namespace Delego.Gateway.Delegations

open Shared Shared.Text Shared.Pages

structure AjvError where
  instancePath : String
  message : Option String
  keyword : String

/-- The validator: it reports errors for what a schema does not accept, and for nothing else. -/
structure Ajv where
  format : String → String → Bool
  errors : Schema → Json → List AjvError
  correct : ∀ schema data, errors schema data = [] ↔ schema.accepts format data = true

structure ValidationErrorDetail where
  field : String
  message : String
  keyword : String

def errorDetail (error : AjvError) : ValidationErrorDetail where
  field := (truthy (some (String.ofList (error.instancePath.toList.drop 1)))).getD "body"
  message := error.message.getD "Invalid value"
  keyword := error.keyword

-- No details say that the data is valid.
def validateSchema (ajv : Ajv) (schema : Schema) (data : Json) : List ValidationErrorDetail :=
  (ajv.errors schema data).map errorDetail

def policyProperties : List (String × Schema) :=
  [ ("maxPerTransaction", .string .digits), ("maxTotal", .string .digits),
    ("allowedMerchants", .array (.string .any)), ("allowedCategories", .array (.string .any)),
    ("expiresAt", .string (.format "date-time")) ]

def CreateDelegationSchema : Schema :=
  .object
    [ ("agentId", .string (.format "uuid")), ("walletId", .string (.format "uuid")), ("label", .string .any),
      ("policy", .object policyProperties
        ["maxPerTransaction", "maxTotal", "allowedMerchants", "allowedCategories"]),
      ("permissionLevel", .string (.enum ["VIEW_ONLY", "AUTO_APPROVE", "SIGNER", "ADMIN"])) ]
    ["agentId", "walletId", "label", "policy", "permissionLevel"]

def UpdateDelegationSchema : Schema :=
  .object
    [ ("status", .string (.enum ["pending", "active", "paused", "revoked", "expired"])),
      ("policy", .object policyProperties []) ]
    []

-- What a body holds once the schema has accepted it.
def memberOf (data : Json) (name : String) : Option Json :=
  match data with
  | .object fields => fields.lookup name
  | _ => none

def textOf (data : Json) (name : String) : Option String :=
  match memberOf data name with
  | some (.string text) => some text
  | _ => none

def textsOf (data : Json) (name : String) : Option (List String) :=
  match memberOf data name with
  | some (.array items) => some (items.filterMap fun item => match item with | .string text => some text | _ => none)
  | _ => none

structure PolicyPayload where
  maxPerTransaction : Option String
  maxTotal : Option String
  allowedMerchants : Option (List String)
  allowedCategories : Option (List String)
  expiresAt : Option String

def policyPayload (data : Json) : PolicyPayload where
  maxPerTransaction := textOf data "maxPerTransaction"
  maxTotal := textOf data "maxTotal"
  allowedMerchants := textsOf data "allowedMerchants"
  allowedCategories := textsOf data "allowedCategories"
  expiresAt := textOf data "expiresAt"

structure UpdateDelegationPayload where
  status : Option String
  policy : Option PolicyPayload

def updatePayload (body : Json) : UpdateDelegationPayload where
  status := textOf body "status"
  policy := (memberOf body "policy").map policyPayload

inductive BodyError where
  | invalidJson
  | tooLarge
  | failed (message : String)

structure RouteError where
  code : String
  message : String
  details : List ValidationErrorDetail

inductive ReplyData where
  | delegation (response : DelegationResponse)
  | status (id status : String)

structure RouteReply where
  status : Nat
  data : Option ReplyData
  error : Option RouteError

def RouteReply.failed (status : Nat) (code message : String) (details : List ValidationErrorDetail) :
    RouteReply :=
  ⟨status, none, some ⟨code, message, details⟩⟩

def Verdict.sent : Verdict → RouteReply
  | .reply status code message => .failed status code message []
  | .next => ⟨200, none, none⟩

def bodyFailure (failure : String → Verdict) : BodyError → RouteReply
  | .invalidJson => .failed 400 "VALIDATION_ERROR" "Invalid JSON body" []
  | .tooLarge => .failed 400 "VALIDATION_ERROR" "Body too large" []
  | .failed message => (failure message).sent

-- The database keeps limits of 64 bits.
def bigint (text : String) : Except String Int :=
  match Number.bigInt text with
  | none => .error ("Cannot convert " ++ text ++ " to a BigInt")
  | some value =>
    if value < 2 ^ 63 then .ok value
    else .error ("value \"" ++ toString value ++ "\" is out of range for type bigint")

def SpendLimit.update (spendLimit : SpendLimit) (policy : PolicyPayload) : Except String SpendLimit := do
  let perTransaction ← (truthy policy.maxPerTransaction).mapM bigint
  let lifetime ← (truthy policy.maxTotal).mapM bigint
  .ok
    { spendLimit with
      limitPerTransaction := perTransaction <|> spendLimit.limitPerTransaction
      limitLifetime := lifetime <|> spendLimit.limitLifetime }

-- The first limit is the one that the database finds.
def updateLimits (spendLimits : List SpendLimit) (policy : PolicyPayload) : Except String (List SpendLimit) :=
  match spendLimits with
  | [] => .ok []
  | spendLimit :: others => (spendLimit.update policy).map fun spendLimit => spendLimit :: others

def updatePolicy (delegation : Delegation) (policy : PolicyPayload) : Except String Delegation :=
  (updateLimits delegation.spendLimits policy).map fun spendLimits =>
    { delegation with
      expiresAt := policy.expiresAt <|> delegation.expiresAt
      delegationPolicy := delegation.delegationPolicy.map fun old =>
        { allowedMerchants := policy.allowedMerchants.getD old.allowedMerchants
          allowedCategories := policy.allowedCategories.getD old.allowedCategories }
      spendLimits }

-- Only a row of which something has changed is written, and then with the time; the policy of merchants and
-- the limits are rows of their own.
def Delegation.save (row old : Delegation) (updatedAt : String) : Delegation :=
  if row.status = old.status ∧ row.expiresAt = old.expiresAt then row else { row with updatedAt }

/-- The transaction of an update: all of it is written or nothing. -/
def updateRow (delegation : Delegation) (payload : UpdateDelegationPayload) (updatedAt : String) :
    Except String Delegation :=
  let stated := { delegation with status := (truthy payload.status).getD delegation.status }
  let changed :=
    match payload.policy with
    | some policy => updatePolicy stated policy
    | none => .ok stated
  changed.map fun row => row.save delegation updatedAt

def Delegation.revoke (delegation : Delegation) (updatedAt : String) : Delegation :=
  Delegation.save { delegation with status := "revoked" } delegation updatedAt

structure Wallet where
  id : String
  userId : String

structure Database where
  delegations : DelegationTable
  wallets : List Wallet

namespace DelegationTable

variable (table : DelegationTable)

def set (row : Delegation) : DelegationTable where
  rows := table.rows.map fun old => if old.id = row.id then row else old
  primary := by
    have ids : (table.rows.map fun old => if old.id = row.id then row else old).map Delegation.id =
        table.rows.map Delegation.id := by
      rw [List.map_map]
      apply List.map_congr_left
      intro old _
      dsimp only [Function.comp]
      split
      · next same => exact same.symm
      · rfl
    rw [ids]
    exact table.primary

def insert (row : Delegation) (fresh : row.id ∉ table.rows.map Delegation.id) : DelegationTable where
  rows := table.rows ++ [row]
  primary := by
    rw [List.map_append, List.nodup_append]
    refine ⟨table.primary, List.nodup_singleton _, ?_⟩
    intro id member other single same
    rw [List.map_singleton, List.mem_singleton] at single
    rw [same, single] at member
    exact fresh member

end DelegationTable

structure Services where
  uuid : UuidReader
  order : KeyOrder String
  ajv : Ajv

structure Creation where
  newId : String
  createdAt : String
  failure : Option String

def newDelegation (userId walletId : String) (body : Json) (creation : Creation) : Except String Delegation := do
  let policy := policyPayload ((memberOf body "policy").getD .null)
  let maxPerTransaction ← bigint (policy.maxPerTransaction.getD "")
  let maxTotal ← bigint (policy.maxTotal.getD "")
  .ok
    { id := creation.newId
      userId
      agentId := (textOf body "agentId").getD ""
      status := "active"
      expiresAt := policy.expiresAt
      createdAt := creation.createdAt
      updatedAt := creation.createdAt
      delegationPolicy :=
        some ⟨policy.allowedMerchants.getD [], policy.allowedCategories.getD []⟩
      spendLimits := [⟨some walletId, some maxPerTransaction, some maxTotal⟩]
      permissionLevel := some ⟨(textOf body "permissionLevel").getD ""⟩ }

section Handlers

variable (services : Services) (database : Database)

def findOwn (userId id : String) : Except String (Option Delegation) :=
  (findOne services.uuid database.delegations id).map fun found =>
    found.filter fun delegation => delegation.userId = userId

def respondWith (status : Nat) (failure : String → Verdict) (delegation : Delegation) : RouteReply :=
  match respond delegation with
  | .error message => (failure message).sent
  | .ok response => ⟨status, some (.delegation response), none⟩

def createDelegationHandler (auth : AuthContext) (body : Except BodyError Json) (creation : Creation) :
    RouteReply × Database :=
  match truthy auth.userId with
  | none => (.failed 401 "UNAUTHORIZED" "Authentication required" [], database)
  | some userId =>
    match body with
    | .error error => (bodyFailure .internalError error, database)
    | .ok body =>
      match validateSchema services.ajv CreateDelegationSchema body with
      | detail :: details =>
        (.failed 400 "VALIDATION_ERROR" "Invalid request body" (detail :: details), database)
      | [] =>
        let named := (textOf body "walletId").getD ""
        match services.uuid named with
        | none =>
          (.failed 500 "INTERNAL_ERROR" (invalidUuid named) [], database)
        | some walletId =>
          if database.wallets.all fun wallet => wallet.id ≠ walletId || wallet.userId ≠ userId then
            (.failed 404 "NOT_FOUND" "Wallet not found" [], database)
          else
            match creation.failure, newDelegation userId walletId body creation with
            | some message, _ | none, .error message =>
              (.failed 500 "INTERNAL_ERROR" message [], database)
            | none, .ok delegation =>
              if fresh : delegation.id ∉ database.delegations.rows.map Delegation.id then
                (respondWith 201 .internalError delegation,
                  { database with delegations := database.delegations.insert delegation fresh })
              else (.failed 500 "INTERNAL_ERROR" "Validation error" [], database)

def getDelegationHandler (auth : AuthContext) (id : String) : RouteReply :=
  match truthy auth.userId with
  | none => .failed 401 "UNAUTHORIZED" "Authentication required" []
  | some userId =>
    match findOwn services database userId id with
    | .error message => .failed 500 "INTERNAL_ERROR" message []
    | .ok none => .failed 404 "NOT_FOUND" "Delegation not found" []
    | .ok (some delegation) => respondWith 200 .internalError delegation

def updateTransaction (userId id : String) (body : Json) (updatedAt : String) (failure : Option String) :
    Except String Delegation :=
  match failure, findOwn services database userId id with
  | some message, _ | none, .error message => .error message
  | none, .ok none => .error "Delegation not found"
  | none, .ok (some delegation) => updateRow delegation (updatePayload body) updatedAt

def updateDelegationHandler (auth : AuthContext) (id : String) (body : Except BodyError Json)
    (updatedAt : String) (failure : Option String) : RouteReply × Database :=
  match verifyOwnership services.uuid database.delegations updateFailure auth id with
  | .reply status code message => (.failed status code message [], database)
  | .next =>
    match body with
    | .error error => (bodyFailure updateFailure error, database)
    | .ok body =>
      match validateSchema services.ajv UpdateDelegationSchema body with
      | detail :: details =>
        (.failed 400 "VALIDATION_ERROR" "Invalid request body" (detail :: details), database)
      | [] =>
        match updateTransaction services database (auth.userId.getD "") id body updatedAt failure with
        | .error message => ((updateFailure message).sent, database)
        | .ok delegation =>
          (respondWith 200 updateFailure delegation,
            { database with delegations := database.delegations.set delegation })

def revokeDelegationHandler (auth : AuthContext) (id updatedAt : String) (failure : Option String) :
    RouteReply × Database :=
  match verifyOwnership services.uuid database.delegations revokeFailure auth id with
  | .reply status code message => (.failed status code message [], database)
  | .next =>
    match findOwn services database (auth.userId.getD "") id with
    | .error message => ((revokeFailure message).sent, database)
    | .ok none => (.failed 404 "NOT_FOUND" "Delegation not found" [], database)
    | .ok (some delegation) =>
      match failure with
      | some message => ((revokeFailure message).sent, database)
      | none =>
        (⟨200, some (.status delegation.id "revoked"), none⟩,
          { database with delegations := database.delegations.set (delegation.revoke updatedAt) })

end Handlers

inductive Request where
  | create (auth : AuthContext) (body : Except BodyError Json) (creation : Creation)
  | list (auth : AuthContext) (searchParams : List (String × String))
  | get (auth : AuthContext) (id : String)
  | update (auth : AuthContext) (id : String) (body : Except BodyError Json) (updatedAt : String)
      (failure : Option String)
  | revoke (auth : AuthContext) (id updatedAt : String) (failure : Option String)

inductive Answer where
  | sent (reply : RouteReply)
  | listed (reply : ListReply)

def step (services : Services) (database : Database) : Request → Answer × Database
  | .create auth body creation =>
    let (reply, database) := createDelegationHandler services database auth body creation
    (.sent reply, database)
  | .list auth searchParams =>
    (.listed (listDelegationsHandler services.uuid services.order database.delegations auth searchParams),
      database)
  | .get auth id => (.sent (getDelegationHandler services database auth id), database)
  | .update auth id body updatedAt failure =>
    let (reply, database) := updateDelegationHandler services database auth id body updatedAt failure
    (.sent reply, database)
  | .revoke auth id updatedAt failure =>
    let (reply, database) := revokeDelegationHandler services database auth id updatedAt failure
    (.sent reply, database)

end Delego.Gateway.Delegations
