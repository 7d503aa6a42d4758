import Delego.Machine.Machine

set_option autoImplicit false

namespace Delego.Machine

open Shared PurchaseWorkflowMachine

def validStates : List String :=
  [ "Discovery", "SpendingCheck", "UserApprovalPending", "EscrowLocking", "MerchantFulfillment",
    "DeliveryVerification", "Completed", "Refunded" ]

section Validation

-- `JSON.stringify`
variable (stringify : Json → String)

def fieldOf (value : Json) (field : String) : Option Json := (value.property field).toOption.join

def isText : Option Json → Bool
  | some (.string text) => text ≠ ""
  | _ => false

def isState : Option Json → Bool
  | some (.string name) => name ∈ validStates
  | _ => false

def isObject : Option Json → Bool
  | some (.array _) | some (.object _) => true
  | _ => false

def isArray : Option Json → Bool
  | some (.array _) => true
  | _ => false

def isVersion : Option Json → Bool
  | some (.number version) => version = .finite snapshotVersion
  | _ => false

def shown (value : Option Json) : String :=
  match value with
  | none => "undefined"
  | some value => stringify value

def contextErrors (context : Json) : List String :=
  ["workflowId", "delegationId", "userId"].filterMap fun field =>
    if isText (fieldOf context field) then none
    else some ("missing or invalid context field: " ++ field)

def validateSnapshot (snapshot : Json) : List String :=
  if isObject (some snapshot) then
    let currentState := fieldOf snapshot "currentState"
    let version := fieldOf snapshot "version"
    (if isText (fieldOf snapshot "workflowId") then [] else ["missing or invalid field: workflowId"]) ++
    (if isState currentState then []
      else ["missing or invalid field: currentState (got " ++ shown stringify currentState ++ ")"]) ++
    (match fieldOf snapshot "context" with
      | some context =>
        if isObject (some context) then contextErrors context
        else ["missing or invalid field: context"]
      | none => ["missing or invalid field: context"]) ++
    (if isArray (fieldOf snapshot "history") then [] else ["missing or invalid field: history"]) ++
    (if isVersion version then []
      else ["unsupported snapshot version: expected " ++ toString snapshotVersion ++ ", got " ++
        shown stringify version])
  else ["snapshot must be a non-null object"]

/-- Restoring a machine: `snapshot` is what the validator sees of the value, and `asserted` is what
the language takes the value for once it has passed. -/
def fromSnapshot (snapshot : Json) (asserted : WorkflowSnapshot) :
    Except String PurchaseWorkflowMachine :=
  match validateSnapshot stringify snapshot with
  | [] => .ok ⟨asserted⟩
  | errors => .error ("Invalid workflow snapshot — quarantined: " ++ "; ".intercalate errors)

def WorkflowSnapshot.toJson (snapshot : WorkflowSnapshot) : Json :=
  .object
    [ ("workflowId", .string snapshot.workflowId),
      ("currentState", .string snapshot.currentState.name),
      ("context", .object
        [ ("workflowId", .string snapshot.context.workflowId),
          ("delegationId", .string snapshot.context.delegationId),
          ("userId", .string snapshot.context.userId) ]),
      ("history", .array (snapshot.history.map fun _ => .object [])),
      ("version", .number (.finite snapshot.version)) ]

end Validation

structure WorkflowSnapshot.Restorable (snapshot : WorkflowSnapshot) : Prop where
  workflowId : snapshot.workflowId ≠ ""
  context : snapshot.context.workflowId ≠ "" ∧ snapshot.context.delegationId ≠ "" ∧
    snapshot.context.userId ≠ ""
  version : snapshot.version = snapshotVersion

theorem name_valid (state : PurchaseState) : state.name ∈ validStates := by
  cases state <;> decide

theorem fromSnapshot_restorable (stringify : Json → String) {snapshot : WorkflowSnapshot}
    (restorable : snapshot.Restorable) :
    fromSnapshot stringify snapshot.toJson snapshot = .ok ⟨snapshot⟩ := by
  obtain ⟨workflowId, ⟨contextId, delegationId, userId⟩, version⟩ := restorable
  have valid : validateSnapshot stringify snapshot.toJson = [] := by
    simp [validateSnapshot, WorkflowSnapshot.toJson, isObject, fieldOf, Json.property, Except.toOption,
      isText, isState, isArray, isVersion, contextErrors, List.lookup_cons, workflowId, contextId,
      delegationId, userId, version, name_valid]
  simp [fromSnapshot, valid]

end Delego.Machine
