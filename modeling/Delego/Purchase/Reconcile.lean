import Delego.Purchase.Serial
import Delego.Shared.Json
import Mathlib.Data.List.Nodup

set_option autoImplicit false

namespace Delego.Purchase

open Shared

inductive EscrowStatus where
  | funded
  | released
  | refunded
  | notFound
  deriving DecidableEq

inductive RecommendedAction where
  | resume
  | settle
  | refund
  | markFailed
  | noop
  deriving DecidableEq

structure ReconciliationFinding where
  orderId : String
  workflowState : PurchaseState
  escrowStatus : EscrowStatus
  recommendedAction : RecommendedAction
  reason : String
  deriving DecidableEq

def statusText (body : Json) : Except String (Option Json) := do
  match ← body.property "data" with
  | none | some .null => .ok none
  | some data => data.property "status"

/-- The status that the wallet service gives. There is no body where its answer is no success or no
JSON. -/
def fetchOnChainEscrowStatus (answer : Option Json) : EscrowStatus :=
  match answer with
  | none => .notFound
  | some body =>
    match statusText body with
    | .ok (some (.string status)) =>
      if status = "released" then .released
      else if status = "refunded" then .refunded
      else if status = "funded" then .funded
      else .notFound
    | _ => .notFound

def recommend (workflowState : PurchaseState) (escrowStatus : EscrowStatus) : RecommendedAction × String :=
  match workflowState, escrowStatus with
  | .completed, _ | .cancelled, _ => (.noop, "Workflow is in terminal state")
  | .escrowFunded, .released => (.settle, "Escrow already released on-chain; advance to COMPLETED")
  | .escrowFunded, .refunded => (.refund, "Escrow refunded on-chain; cancel workflow")
  | .approved, .funded | .initiated, .funded =>
    (.resume, "Escrow funded on-chain but workflow not advanced")
  | .failed, _ => (.markFailed, "Workflow already marked failed")
  | _, _ => (.noop, "State appears consistent")

inductive Attempt where
  | answered (now : Nat) (published : Bool)
  | unread (message : String)
  | unwritten (now : Nat) (message : String)
  | unconfirmed (now : Nat) (message : String)

def Attempt.inputs (caller : Caller) : Attempt → List Input
  | .answered now published => [.publish 0 published, .persist 0, .load 0 now, .call 0 caller]
  | .unread message => [.reject 0 message, .call 0 caller]
  | .unwritten now message => [.reject 0 message, .load 0 now, .call 0 caller]
  | .unconfirmed now message => [.reject 0 message, .persist 0, .load 0 now, .call 0 caller]

def transitionWorkflow (table : Workflows) (orderId : String) (event : PurchaseEvent) (attempt : Attempt) :
    Workflows :=
  (final table (attempt.inputs (.transitionWorkflow orderId event))).table

structure PurchaseWorkflows where
  table : Workflows
  orderIds : List String
  unique : orderIds.Nodup
  listed : ∀ orderId, orderId ∈ orderIds ↔ table orderId ≠ none

-- `SELECT … WHERE state NOT IN ('COMPLETED', 'CANCELLED', 'FAILED') ORDER BY updated_at ASC`
def PurchaseWorkflows.inProgress (workflows : PurchaseWorkflows) : List WorkflowSnapshot :=
  ((workflows.orderIds.filterMap (loadWorkflow workflows.table)).filter
    fun row => ! row.state.terminal).mergeSort fun row other => row.updatedAt ≤ other.updatedAt

section Pass

-- The answers of the wallet service by escrow id, and the attempts of a pass by order id.
variable (answers : String → Option Json) (attempts : String → Attempt)

def escrowStatusOf (row : WorkflowSnapshot) : EscrowStatus :=
  match Text.truthy row.context.escrowId with
  | some escrowId => fetchOnChainEscrowStatus (answers escrowId)
  | none => .notFound

def findingOf (row : WorkflowSnapshot) : ReconciliationFinding :=
  let escrowStatus := escrowStatusOf answers row
  let (action, reason) := recommend row.state escrowStatus
  ⟨row.orderId, row.state, escrowStatus, action, reason⟩

-- An error of a correction is logged, and the pass goes on.
def correct (table : Workflows) (finding : ReconciliationFinding) : Workflows :=
  match finding.recommendedAction with
  | .settle => transitionWorkflow table finding.orderId (.settle "") (attempts finding.orderId)
  | .refund =>
    transitionWorkflow table finding.orderId (.cancel "escrow_refunded_on_chain")
      (attempts finding.orderId)
  | .resume | .markFailed | .noop => table

def findings (workflows : PurchaseWorkflows) : List ReconciliationFinding :=
  workflows.inProgress.map (findingOf answers)

def reconcileWorkflows (workflows : PurchaseWorkflows) : Workflows :=
  (findings answers workflows).foldl (correct attempts) workflows.table

end Pass

section Corrections

variable {answers : String → Option Json} {attempts : String → Attempt} {table : Workflows}
  {orderId : String} {row : WorkflowRow} {workflows : PurchaseWorkflows}

-- When the new row is written, though the call may not be told.
def Attempt.written : Attempt → Option Nat
  | .answered now _ | .unconfirmed now _ => some now
  | .unread _ | .unwritten .. => none

def WorkflowRow.toSnapshot (orderId : String) (row : WorkflowRow) : WorkflowSnapshot :=
  ⟨orderId, row.state, row.context, row.updatedAt⟩

def corrected (answers : String → Option Json) (attempts : String → Attempt) (orderId : String)
    (row : WorkflowRow) : WorkflowRow :=
  if row.state = .escrowFunded ∧ escrowStatusOf answers (row.toSnapshot orderId) = .refunded then
    match (attempts orderId).written with
    | some now => ⟨.cancelled, row.context.updated (.cancel "escrow_refunded_on_chain"), now⟩
    | none => row
  else row

theorem transitionWorkflow_refused {event : PurchaseEvent} {attempt : Attempt}
    (held : table orderId = some row) (refused : transitions row.state event.type = none) :
    transitionWorkflow table orderId event attempt = table := by
  have invalid : ∃ message, applyEvent row.state event row.context = .error message := by
    simp [applyEvent, refused]
  obtain ⟨message, invalid⟩ := invalid
  cases attempt <;>
    simp [transitionWorkflow, Attempt.inputs, final, Run.final, start, step, System.withCall, validate,
      loadWorkflow, held, invalid, Caller.orderId, Caller.event]

theorem transitionWorkflow_accepted {event : PurchaseEvent} {attempt : Attempt} {state : PurchaseState}
    (held : table orderId = some row) (accepted : transitions row.state event.type = some state) :
    transitionWorkflow table orderId event attempt = match attempt.written with
      | some now => Function.update table orderId (some ⟨state, row.context.updated event, now⟩)
      | none => table := by
  have valid : applyEvent row.state event row.context = .ok (state, row.context.updated event) := by
    simp [applyEvent, accepted]
  cases attempt <;>
    simp [transitionWorkflow, Attempt.inputs, final, Run.final, start, step, System.withCall, validate,
      loadWorkflow, persistWorkflow, held, valid, Caller.orderId, Caller.event, Attempt.written]

theorem recommend_settle {state : PurchaseState} {status : EscrowStatus} :
    (recommend state status).1 = .settle ↔ state = .escrowFunded ∧ status = .released := by
  cases state <;> cases status <;> simp [recommend]

theorem recommend_refund {state : PurchaseState} {status : EscrowStatus} :
    (recommend state status).1 = .refund ↔ state = .escrowFunded ∧ status = .refunded := by
  cases state <;> cases status <;> simp [recommend]

theorem update_held (held : table orderId = some row) :
    Function.update table orderId (some row) = table := by
  rw [← held, Function.update_eq_self]

/-- One correction. A release is not corrected, since the table has no settlement of a funded order. -/
theorem correct_row (held : table orderId = some row) :
    correct attempts table (findingOf answers (row.toSnapshot orderId)) =
      Function.update table orderId (some (corrected answers attempts orderId row)) := by
  unfold correct corrected
  have action : (findingOf answers (row.toSnapshot orderId)).recommendedAction =
      (recommend row.state (escrowStatusOf answers (row.toSnapshot orderId))).1 := rfl
  have named : (findingOf answers (row.toSnapshot orderId)).orderId = orderId := rfl
  rw [action, named]
  cases recommended : (recommend row.state (escrowStatusOf answers (row.toSnapshot orderId))).1 with
  | settle =>
    obtain ⟨funded, released⟩ := recommend_settle.mp recommended
    rw [transitionWorkflow_refused held (by rw [funded]; rfl), if_neg (by simp [released]),
      update_held held]
  | refund =>
    obtain ⟨funded, refunded⟩ := recommend_refund.mp recommended
    have accepted : transitions row.state
        (PurchaseEvent.cancel "escrow_refunded_on_chain").type = some .cancelled := by
      rw [funded]
      rfl
    dsimp only
    rw [transitionWorkflow_accepted held accepted, if_pos ⟨funded, refunded⟩]
    cases (attempts orderId).written with
    | some now => rfl
    | none => exact (update_held held).symm
  | resume | markFailed | noop =>
    rw [if_neg, update_held held]
    intro refund
    rw [recommend_refund.mpr refund] at recommended
    cases recommended

theorem mem_inProgress {row : WorkflowSnapshot} : row ∈ workflows.inProgress ↔
    loadWorkflow workflows.table row.orderId = some row ∧ row.state.terminal = false := by
  simp only [PurchaseWorkflows.inProgress, List.mem_mergeSort, List.mem_filter, List.mem_filterMap,
    Bool.not_eq_true']
  constructor
  · rintro ⟨⟨orderId, _, loaded⟩, running⟩
    have named : row.orderId = orderId := by
      obtain ⟨_, _, rfl⟩ := Option.map_eq_some_iff.mp loaded
      rfl
    exact ⟨named ▸ loaded, running⟩
  · rintro ⟨loaded, running⟩
    refine ⟨⟨row.orderId, (workflows.listed _).mpr ?_, loaded⟩, running⟩
    intro missing
    simp [loadWorkflow, missing] at loaded

theorem inProgress_unique (workflows : PurchaseWorkflows) :
    (workflows.inProgress.map WorkflowSnapshot.orderId).Nodup := by
  have loaded : (workflows.orderIds.filterMap (loadWorkflow workflows.table)).Nodup := by
    refine List.Nodup.filterMap ?_ workflows.unique
    intro orderId other row found found'
    obtain ⟨_, _, rfl⟩ := Option.map_eq_some_iff.mp found
    obtain ⟨_, _, same⟩ := Option.map_eq_some_iff.mp found'
    exact (congrArg WorkflowSnapshot.orderId same).symm
  have rows : workflows.inProgress.Nodup :=
    (List.mergeSort_perm _ _).nodup_iff.mpr (List.Nodup.filter _ loaded)
  refine List.Nodup.map_on ?_ rows
  intro row member other member' same
  have found := (mem_inProgress.mp member).1
  rw [same, (mem_inProgress.mp member').1] at found
  exact (Option.some.inj found).symm

theorem foldl_correct (rows : List WorkflowSnapshot) (unique : (rows.map WorkflowSnapshot.orderId).Nodup)
    (held : ∀ row ∈ rows, table row.orderId = some row.toRow) (orderId : String) :
    ((rows.map (findingOf answers)).foldl (correct attempts) table) orderId =
      if orderId ∈ rows.map WorkflowSnapshot.orderId then
        (table orderId).map (corrected answers attempts orderId)
      else table orderId := by
  induction rows generalizing table with
  | nil => rfl
  | cons row rest ih =>
    have own := held row (.head _)
    obtain ⟨apart, unique⟩ := List.nodup_cons.mp unique
    have corrects : correct attempts table (findingOf answers row) = Function.update table row.orderId
        (some (corrected answers attempts row.orderId row.toRow)) := correct_row own
    rw [List.map_cons, List.foldl_cons, corrects]
    have later : ∀ other ∈ rest, Function.update table row.orderId
        (some (corrected answers attempts row.orderId row.toRow)) other.orderId = some other.toRow := by
      intro other member
      have different : other.orderId ≠ row.orderId :=
        fun same => apart (same ▸ List.mem_map_of_mem member)
      rw [Function.update_of_ne different]
      exact held other (.tail _ member)
    rw [ih unique later]
    by_cases same : orderId = row.orderId
    · subst same
      rw [if_neg apart, if_pos (.head _), Function.update_self, own, Option.map_some]
    · have elsewhere : orderId ∈ (row :: rest).map WorkflowSnapshot.orderId ↔
          orderId ∈ rest.map WorkflowSnapshot.orderId := by simp [same]
      simp only [Function.update_of_ne same, elsewhere]

theorem reconcileWorkflows_row (workflows : PurchaseWorkflows) (orderId : String) :
    reconcileWorkflows answers attempts workflows orderId =
      (workflows.table orderId).map (corrected answers attempts orderId) := by
  have held : ∀ row ∈ workflows.inProgress, workflows.table row.orderId = some row.toRow := by
    intro row member
    obtain ⟨stored, found, same⟩ := Option.map_eq_some_iff.mp (mem_inProgress.mp member).1
    rw [found, ← same]
    rfl
  unfold reconcileWorkflows findings
  rw [foldl_correct _ (inProgress_unique workflows) held]
  split
  · rfl
  · next absent =>
    cases found : workflows.table orderId with
    | none => rfl
    | some row =>
      -- A row that is not in progress is not a funded one.
      have finished : row.state.terminal = true := by
        by_contra running
        refine absent (List.mem_map.mpr ⟨row.toSnapshot orderId, mem_inProgress.mpr ⟨?_, ?_⟩, rfl⟩)
        · exact congrArg (Option.map (WorkflowRow.toSnapshot orderId)) found
        · exact Bool.eq_false_iff.mpr running
      rw [Option.map_some, corrected, if_neg]
      rintro ⟨funded, _⟩
      rw [funded] at finished
      cases finished

end Corrections

def PurchaseWorkflows.reconciled (answers : String → Option Json) (attempts : String → Attempt)
    (workflows : PurchaseWorkflows) : PurchaseWorkflows where
  table := reconcileWorkflows answers attempts workflows
  orderIds := workflows.orderIds
  unique := workflows.unique
  listed := by
    intro orderId
    rw [workflows.listed, reconcileWorkflows_row]
    simp

/-- A pass after another, with the same answers of the wallet service, finds nothing to settle or to
refund. -/
def Converges (answers : String → Option Json) (attempts : String → Attempt)
    (workflows : PurchaseWorkflows) : Prop :=
  ∀ finding ∈ findings answers (workflows.reconciled answers attempts),
    finding.recommendedAction ≠ .settle ∧ finding.recommendedAction ≠ .refund

/-- No funded order has a released escrow, and the cancellation of each with a refunded escrow is
written. -/
def Correctable (answers : String → Option Json) (attempts : String → Attempt)
    (workflows : PurchaseWorkflows) : Prop :=
  ∀ orderId row, workflows.table orderId = some row → row.state = .escrowFunded →
    escrowStatusOf answers (row.toSnapshot orderId) ≠ .released ∧
      (escrowStatusOf answers (row.toSnapshot orderId) = .refunded → (attempts orderId).written ≠ none)

theorem listed_again {answers : String → Option Json} {attempts : String → Attempt}
    {workflows : PurchaseWorkflows} {orderId : String} {row : WorkflowRow}
    (held : workflows.table orderId = some row) (funded : row.state = .escrowFunded)
    (left : corrected answers attempts orderId row = row) :
    findingOf answers (row.toSnapshot orderId) ∈
      findings answers (workflows.reconciled answers attempts) := by
  refine List.mem_map_of_mem (mem_inProgress.mpr ⟨?_, ?_⟩)
  · have kept : reconcileWorkflows answers attempts workflows orderId = some row := by
      rw [reconcileWorkflows_row, held, Option.map_some, left]
    exact congrArg (Option.map (WorkflowRow.toSnapshot orderId)) kept
  · show row.state.terminal = false
    rw [funded]
    rfl

theorem corrected_funded {answers : String → Option Json} {attempts : String → Attempt}
    {orderId : String} {row : WorkflowRow}
    (funded : (corrected answers attempts orderId row).state = .escrowFunded) :
    row.state = .escrowFunded ∧ corrected answers attempts orderId row = row := by
  unfold corrected at funded ⊢
  split at funded
  · next refunded =>
    rw [if_pos refunded]
    cases written : (attempts orderId).written with
    | some now =>
      rw [written] at funded
      cases funded
    | none => exact ⟨refunded.1, rfl⟩
  · next other => exact ⟨funded, if_neg other⟩

theorem reconciliation_converges_iff (answers : String → Option Json) (attempts : String → Attempt)
    (workflows : PurchaseWorkflows) :
    Converges answers attempts workflows ↔ Correctable answers attempts workflows := by
  constructor
  · intro converges orderId row held funded
    constructor
    · intro released
      have left : corrected answers attempts orderId row = row := by
        rw [corrected, if_neg (by simp [released])]
      exact (converges _ (listed_again held funded left)).1
        (recommend_settle.mpr ⟨funded, released⟩)
    · intro refunded unwritten
      have left : corrected answers attempts orderId row = row := by
        rw [corrected, if_pos ⟨funded, refunded⟩, unwritten]
      exact (converges _ (listed_again held funded left)).2
        (recommend_refund.mpr ⟨funded, refunded⟩)
  · intro correctable finding member
    obtain ⟨snapshot, listed, rfl⟩ := List.mem_map.mp member
    obtain ⟨stored, found, same⟩ := Option.map_eq_some_iff.mp (mem_inProgress.mp listed).1
    generalize snapshot.orderId = orderId at found same
    subst same
    have corrects : (workflows.table orderId).map (corrected answers attempts orderId) = some stored :=
      (reconcileWorkflows_row workflows orderId).symm.trans found
    obtain ⟨row, held, rfl⟩ := Option.map_eq_some_iff.mp corrects
    constructor
    · intro settle
      obtain ⟨funded, released⟩ := recommend_settle.mp settle
      obtain ⟨funded, left⟩ := corrected_funded funded
      rw [left] at released
      exact (correctable _ row held funded).1 released
    · intro refund
      obtain ⟨funded, refunded⟩ := recommend_refund.mp refund
      obtain ⟨funded, left⟩ := corrected_funded funded
      rw [left] at refunded
      -- A row that the pass left was not written.
      have written := (correctable _ row held funded).2 refunded
      rw [corrected, if_pos ⟨funded, refunded⟩] at left
      cases wrote : (attempts orderId).written with
      | none => exact written wrote
      | some now =>
        rw [wrote] at left
        rw [← left] at funded
        cases funded

def releasedOrder : WorkflowRow :=
  ⟨.escrowFunded,
    { sampleContext with
      escrowId := some "7" }, 0⟩

def releasedOrders : PurchaseWorkflows where
  table := Function.update (fun _ => none) "order" (some releasedOrder)
  orderIds := ["order"]
  unique := List.nodup_singleton _
  listed := by
    intro orderId
    by_cases same : orderId = "order" <;> simp [same]

def releasedAnswer : Json := .object [("data", .object [("status", .string "released")])]

theorem released_escrow_never_settled :
    ¬ Converges (fun _ => some releasedAnswer) (fun _ => .answered 1 true) releasedOrders := by
  intro converges
  have held : releasedOrders.table "order" = some releasedOrder := rfl
  have released : escrowStatusOf (fun _ => some releasedAnswer) (releasedOrder.toSnapshot "order") =
      .released := by
    decide +kernel
  have left : corrected (fun _ => some releasedAnswer) (fun _ => .answered 1 true) "order"
      releasedOrder = releasedOrder := by
    rw [corrected, released, if_neg (by simp)]
  exact (converges _ (listed_again held rfl left)).1 (recommend_settle.mpr ⟨rfl, released⟩)

end Delego.Purchase
