import Delego.Purchase.Types
import Mathlib.Data.List.Infix
import Mathlib.Logic.Function.Basic

set_option autoImplicit false

namespace Delego.Purchase

def transitions : PurchaseState → PurchaseEventType → Option PurchaseState
  | .initiated, .search => some .searching
  | .initiated, .cancel => some .cancelled
  | .searching, .productsFound => some .found
  | .searching, .cancel | .searching, .timeout => some .cancelled
  | .searching, .fail => some .failed
  | .found, .approve => some .approved
  | .found, .reject | .found, .cancel => some .cancelled
  | .approved, .escrowFunded => some .escrowFunded
  | .approved, .escrowFailed | .approved, .cancel => some .cancelled
  | .escrowFunded, .purchaseConfirmed => some .purchased
  | .escrowFunded, .cancel => some .cancelled
  | .escrowFunded, .fail => some .failed
  | .purchased, .deliveryConfirmed => some .delivering
  | .purchased, .cancel => some .cancelled
  | .purchased, .fail => some .failed
  | .delivering, .settle => some .delivered
  | .delivering, .fail => some .failed
  | .delivered, .settle => some .completed
  | _, _ => none

def PurchaseContext.updated (context : PurchaseContext) : PurchaseEvent → PurchaseContext
  | .search query delegationId => { context with query, delegationId }
  | .productsFound products => { context with products }
  | .approve selectedProductId => { context with selectedProductId := some selectedProductId }
  | .escrowFunded escrowId txHash =>
    { context with
      escrowId := some escrowId
      escrowTxHash := some txHash }
  | .escrowFailed reason => { context with error := some reason }
  | .purchaseConfirmed merchantOrderId => { context with merchantOrderId := some merchantOrderId }
  | .settle txHash => { context with settlementTxHash := some txHash }
  | .cancel reason => { context with error := some reason }
  | .fail error => { context with error := some error }
  | .reject | .deliveryConfirmed _ | .timeout => context

def applyEvent (state : PurchaseState) (event : PurchaseEvent) (context : PurchaseContext) :
    Except String (PurchaseState × PurchaseContext) :=
  match transitions state event.type with
  | none => .error ("Invalid transition: " ++ event.type.name ++ " from " ++ state.name)
  | some next => .ok (next, context.updated event)

structure WorkflowRow where
  state : PurchaseState
  context : PurchaseContext
  updatedAt : Nat
  deriving DecidableEq

/-- The table `purchase_workflows`, by order id. -/
abbrev Workflows := String → Option WorkflowRow

def persistWorkflow (table : Workflows) (snapshot : WorkflowSnapshot) : Workflows :=
  Function.update table snapshot.orderId
    (some ⟨snapshot.state, snapshot.context, snapshot.updatedAt⟩)

def loadWorkflow (table : Workflows) (orderId : String) : Option WorkflowSnapshot :=
  (table orderId).map fun row => ⟨orderId, row.state, row.context, row.updatedAt⟩

-- Who calls: a request or the reconciler with an event of its own, or the checkout timer.
inductive Caller where
  | transitionWorkflow (orderId : String) (event : PurchaseEvent)
  | handleTimeout (orderId : String)
  deriving DecidableEq

def Caller.orderId : Caller → String
  | .transitionWorkflow orderId _ | .handleTimeout orderId => orderId

def Caller.event : Caller → PurchaseEvent
  | .transitionWorkflow _ event => event
  | .handleTimeout _ => .cancel "checkout_timeout"

def includes (text pattern : String) : Bool := decide (pattern.toList <:+: text.toList)

-- The timer takes an order that can no longer be cancelled for settled.
def Caller.answer : Caller → Except String WorkflowSnapshot → Except String (Option WorkflowSnapshot)
  | .transitionWorkflow .., .ok next => .ok (some next)
  | .transitionWorkflow .., .error message => .error message
  | .handleTimeout _, .ok _ => .ok none
  | .handleTimeout _, .error message =>
    if includes message "Invalid transition" then .ok none else .error message

inductive CallPhase where
  | idle
  | loading (caller : Caller)
  | persisting (caller : Caller) (snapshot next : WorkflowSnapshot)
  | publishing (caller : Caller) (previousState : PurchaseState) (next : WorkflowSnapshot)
  | returned (result : Except String (Option WorkflowSnapshot))

structure System where
  table : Workflows
  calls : Nat → CallPhase

inductive Input where
  | call (id : Nat) (caller : Caller)
  | load (id now : Nat)
  | persist (id : Nat)
  | publish (id : Nat) (delivered : Bool)
  | reject (id : Nat) (message : String)

inductive Effect where
  | persisted (orderId : String) (event : PurchaseEvent) (row : WorkflowRow)
  | published (event : WorkflowEvent)
  deriving DecidableEq

def System.withCall (system : System) (id : Nat) (phase : CallPhase) : System :=
  { system with
    calls := Function.update system.calls id phase }

def validate (table : Workflows) (caller : Caller) (now : Nat) : CallPhase :=
  match loadWorkflow table caller.orderId with
  | none => .returned (caller.answer (.error ("Workflow not found: " ++ caller.orderId)))
  | some snapshot =>
    match applyEvent snapshot.state caller.event snapshot.context with
    | .error message => .returned (caller.answer (.error message))
    | .ok (state, context) => .persisting caller snapshot ⟨caller.orderId, state, context, now⟩

def step (system : System) : Input → Option Effect × System
  | .call id caller =>
    match system.calls id with
    | .idle => (none, system.withCall id (.loading caller))
    | _ => (none, system)
  | .load id now =>
    match system.calls id with
    | .loading caller => (none, system.withCall id (validate system.table caller now))
    | _ => (none, system)
  | .persist id =>
    match system.calls id with
    | .persisting caller snapshot next =>
      (some (.persisted next.orderId caller.event ⟨next.state, next.context, next.updatedAt⟩),
        { system.withCall id (.publishing caller snapshot.state next) with
          table := persistWorkflow system.table next })
    | _ => (none, system)
  | .publish id delivered =>
    match system.calls id with
    | .publishing caller previousState next =>
      let event : WorkflowEvent :=
        ⟨next.orderId, next.context.userId, previousState, next.state, caller.event.type,
          next.updatedAt⟩
      (if delivered then some (.published event) else none,
        system.withCall id (.returned (caller.answer (.ok next))))
    | _ => (none, system)
  -- A query of the database that fails, or one that was answered and whose answer is lost.
  | .reject id message =>
    match system.calls id with
    | .loading caller | .persisting caller _ _ | .publishing caller _ _ =>
      (none, system.withCall id (.returned (caller.answer (.error message))))
    | _ => (none, system)

end Delego.Purchase
