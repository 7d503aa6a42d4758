import Delego.Machine.Snapshot
import Delego.Purchase.Serial

set_option autoImplicit false

namespace Delego.Purchase

open Shared Machine

-- What a new order is persisted as. The id is drawn by `generateId`.
def createWorkflow (orderId userId delegationId query : String) (now : Nat) : WorkflowSnapshot where
  orderId
  state := .initiated
  context :=
    { orderId
      userId
      delegationId
      query
      products := []
      selectedProductId := none
      escrowId := none
      escrowTxHash := none
      merchantOrderId := none
      settlementTxHash := none
      error := none
      createdAt := now }
  updatedAt := now

inductive Persisted : WorkflowSnapshot → Prop
  | created (orderId userId delegationId query : String) (now : Nat) :
    Persisted (createWorkflow orderId userId delegationId query now)
  | transitioned {table : Workflows} {inputs : List Input} {receipt : WorkflowReceipt}
      {orderId : String} {event : PurchaseEvent} {row : WorkflowRow}
      (member : receipt ∈ history table inputs)
      (told : receipt.output = some (.persisted orderId event row)) :
    Persisted ⟨orderId, row.state, row.context, row.updatedAt⟩

def text : Option String → Json
  | some value => .string value
  | none => .null

def ProductMatch.toJson (product : ProductMatch) : Json :=
  .object
    [ ("id", .string product.id), ("name", .string product.name),
      ("merchant", .string product.merchant), ("priceStroops", .string product.priceStroops),
      ("url", .string product.url) ]

-- A date has no fields of its own.
def PurchaseContext.toJson (context : PurchaseContext) : Json :=
  .object
    [ ("orderId", .string context.orderId), ("userId", .string context.userId),
      ("delegationId", .string context.delegationId), ("query", .string context.query),
      ("products", .array (context.products.map ProductMatch.toJson)),
      ("selectedProductId", text context.selectedProductId), ("escrowId", text context.escrowId),
      ("escrowTxHash", text context.escrowTxHash), ("merchantOrderId", text context.merchantOrderId),
      ("settlementTxHash", text context.settlementTxHash), ("error", text context.error),
      ("createdAt", .object []) ]

def WorkflowSnapshot.toJson (snapshot : WorkflowSnapshot) : Json :=
  .object
    [ ("orderId", .string snapshot.orderId), ("state", .string snapshot.state.name),
      ("context", snapshot.context.toJson), ("updatedAt", .object []) ]

def restorePurchaseWorkflow (stringify : Json → String) (snapshot : WorkflowSnapshot)
    (asserted : Machine.WorkflowSnapshot) : Except String PurchaseWorkflowMachine :=
  fromSnapshot stringify snapshot.toJson asserted

/-- The snapshot is taken back, and the machine stands in its state and accepts the events that are
legal from there. -/
def WorkflowSnapshot.Restorable (stringify : Json → String) (snapshot : WorkflowSnapshot) : Prop :=
  ∃ asserted machine, restorePurchaseWorkflow stringify snapshot asserted = .ok machine ∧
    machine.currentState.name = snapshot.state.name ∧
    ∀ (type : Machine.PurchaseEventType) (type' : PurchaseEventType), type.name = type'.name →
      ((Machine.transitions machine.currentState type).isSome ↔
        (transitions snapshot.state type').isSome)

variable {stringify : Json → String} {snapshot : WorkflowSnapshot}

theorem validateSnapshot_errors : validateSnapshot stringify snapshot.toJson ≠ [] := by
  simp [validateSnapshot, WorkflowSnapshot.toJson, isObject, fieldOf, Json.property, Except.toOption,
    isText, List.lookup_cons]

theorem restorePurchaseWorkflow_rejects (asserted : Machine.WorkflowSnapshot) :
    ∃ message, restorePurchaseWorkflow stringify snapshot asserted = .error message := by
  unfold restorePurchaseWorkflow fromSnapshot
  split
  · next valid => exact absurd valid validateSnapshot_errors
  · exact ⟨_, rfl⟩

/-- No snapshot that these calls persist, or could persist, can be restored. -/
theorem snapshot_not_restorable (stringify : Json → String) (snapshot : WorkflowSnapshot) :
    ¬ snapshot.Restorable stringify := by
  rintro ⟨asserted, machine, restored, _⟩
  obtain ⟨message, rejected⟩ := @restorePurchaseWorkflow_rejects stringify snapshot asserted
  cases restored.symm.trans rejected

theorem new_order_not_restorable :
    ¬ ∀ snapshot, Persisted snapshot → snapshot.Restorable fun _ => "" := by
  intro restorable
  obtain ⟨asserted, machine, restored, _⟩ :=
    restorable _ (.created "order" "user" "delegation" "shoes" 0)
  obtain ⟨message, rejected⟩ := restorePurchaseWorkflow_rejects asserted
  cases restored.symm.trans rejected

end Delego.Purchase
