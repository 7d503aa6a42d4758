import Delego.Machine.Types
import Delego.Shared.Json
import Delego.Shared.Run

set_option autoImplicit false

namespace Delego.Machine

open Shared

def transitions : PurchaseState → PurchaseEventType → Option PurchaseState
  | .discovery, .productFound => some .spendingCheck
  | .spendingCheck, .spendApproved => some .userApprovalPending
  | .spendingCheck, .spendDenied => some .refunded
  | .userApprovalPending, .userApproved => some .escrowLocking
  | .userApprovalPending, .userRejected => some .refunded
  | .escrowLocking, .escrowLocked => some .merchantFulfillment
  | .escrowLocking, .escrowFailed => some .refunded
  | .merchantFulfillment, .fulfillmentConfirmed => some .deliveryVerification
  | .merchantFulfillment, .refundInitiated => some .refunded
  | .deliveryVerification, .deliveryVerified => some .completed
  | .deliveryVerification, .refundInitiated => some .refunded
  | _, _ => none

def PurchaseState.terminal (state : PurchaseState) : Bool := state = .completed || state = .refunded

def applyContextUpdate (context : PurchaseContext) (event : PurchaseEvent) (now : Nat) : PurchaseContext :=
  match event with
  | .productFound productId merchantId totalStroops =>
    { context with
      productId := some productId
      merchantId := some merchantId
      totalStroops := some totalStroops
      updatedAt := now }
  | .spendDenied reason | .escrowFailed reason | .refundInitiated reason =>
    { context with
      rejectionReason := some reason
      updatedAt := now }
  | .userRejected =>
    { context with
      rejectionReason := some "user_rejected"
      updatedAt := now }
  | .escrowLocked escrowContractId =>
    { context with
      escrowContractId := some escrowContractId
      updatedAt := now }
  | .spendApproved | .userApproved | .fulfillmentConfirmed | .deliveryVerified =>
    { context with updatedAt := now }

def snapshotVersion : Nat := 1

structure InitialContext where
  workflowId : String
  delegationId : String
  userId : String

structure PurchaseWorkflowMachine where
  snapshot : WorkflowSnapshot
  deriving DecidableEq

/-- One call of `send`: the clock is read for the context and for the record, and `hook` is what
`onTransition` comes to (a machine without one goes on as if it had resolved). -/
structure Sending where
  event : PurchaseEvent
  updatedAt : Nat
  timestamp : Nat
  hook : Except String Unit

namespace PurchaseWorkflowMachine

def new (initialContext : InitialContext) (now : Nat) : PurchaseWorkflowMachine where
  snapshot :=
    { workflowId := initialContext.workflowId
      currentState := .discovery
      context :=
        { workflowId := initialContext.workflowId
          delegationId := initialContext.delegationId
          userId := initialContext.userId
          productId := none
          merchantId := none
          totalStroops := none
          escrowContractId := none
          rejectionReason := none
          createdAt := now
          updatedAt := now }
      history := []
      version := snapshotVersion }

variable (machine : PurchaseWorkflowMachine)

def currentState : PurchaseState := machine.snapshot.currentState

def isTerminal : Bool := machine.snapshot.currentState.terminal

def getSnapshot : WorkflowSnapshot := machine.snapshot

def moved (sending : Sending) (nextState : PurchaseState) : WorkflowSnapshot :=
  let updatedContext := applyContextUpdate machine.snapshot.context sending.event sending.updatedAt
  let record : StateTransitionRecord :=
    { workflowId := machine.snapshot.workflowId
      fromState := some machine.snapshot.currentState
      toState := nextState
      event := sending.event.type
      context := updatedContext
      timestamp := sending.timestamp }
  { machine.snapshot with
    currentState := nextState
    context := updatedContext
    history := machine.snapshot.history ++ [record] }

def send (sending : Sending) : Except String WorkflowSnapshot × PurchaseWorkflowMachine :=
  if machine.isTerminal then
    (.error ("Workflow " ++ machine.snapshot.workflowId ++ " is in terminal state \"" ++
      machine.snapshot.currentState.name ++ "\" and cannot accept further events"), machine)
  else
    match transitions machine.snapshot.currentState sending.event.type with
    | none =>
      (.error ("Event \"" ++ sending.event.type.name ++ "\" is not valid in state \"" ++
        machine.snapshot.currentState.name ++ "\""), machine)
    | some nextState =>
      let machine' : PurchaseWorkflowMachine := ⟨machine.moved sending nextState⟩
      -- The hook comes after the machine has moved.
      match sending.hook with
      | .ok () => (.ok machine'.getSnapshot, machine')
      | .error message => (.error message, machine')

end PurchaseWorkflowMachine

open PurchaseWorkflowMachine

variable {machine : PurchaseWorkflowMachine} {sending : Sending}

theorem transitions_terminal {state : PurchaseState} (terminal : state.terminal = true)
    (type : PurchaseEventType) : transitions state type = none := by
  cases state with
  | completed | refunded => rfl
  | _ => cases terminal

-- All that a call of `send` can come to.
theorem send_cases (machine : PurchaseWorkflowMachine) (sending : Sending) :
    (transitions machine.currentState sending.event.type = none ∧
      ∃ message, machine.send sending = (.error message, machine)) ∨
    ∃ nextState, transitions machine.currentState sending.event.type = some nextState ∧
      machine.send sending = (sending.hook.map fun _ => machine.moved sending nextState,
        ⟨machine.moved sending nextState⟩) := by
  unfold send
  by_cases terminal : machine.isTerminal = true
  · rw [if_pos terminal]
    exact .inl ⟨transitions_terminal terminal _, _, rfl⟩
  · rw [if_neg terminal]
    cases allowed : transitions machine.snapshot.currentState sending.event.type with
    | none => exact .inl ⟨allowed, _, rfl⟩
    | some nextState =>
      refine .inr ⟨nextState, allowed, ?_⟩
      cases sending.hook with
      | ok => rfl
      | error => rfl

abbrev MachineReceipt :=
  Receipt PurchaseWorkflowMachine Sending (Except String WorkflowSnapshot)

-- A machine that is sent one event after the other, newest first.
def final (machine : PurchaseWorkflowMachine) (sendings : List Sending) : PurchaseWorkflowMachine :=
  Run.final send machine sendings

def history (machine : PurchaseWorkflowMachine) (sendings : List Sending) : List MachineReceipt :=
  Run.history send machine sendings

section Rejections

def Unmoved (machine : PurchaseWorkflowMachine) (sending : Sending) : Prop :=
  ∀ message machine', machine.send sending = (.error message, machine') →
    machine'.getSnapshot = machine.getSnapshot

def HookRejects (machine : PurchaseWorkflowMachine) (sending : Sending) : Prop :=
  transitions machine.currentState sending.event.type ≠ none ∧ ∃ message, sending.hook = .error message

theorem moved_ne (sending : Sending) (nextState : PurchaseState) :
    machine.moved sending nextState ≠ machine.snapshot := by
  intro same
  have lengths := congrArg (fun snapshot => snapshot.history.length) same
  simp [moved] at lengths

theorem unmoved_iff : Unmoved machine sending ↔ ¬ HookRejects machine sending := by
  unfold Unmoved HookRejects
  rcases send_cases machine sending with ⟨refused, message, sent⟩ | ⟨nextState, allowed, sent⟩
  · simp only [refused, sent, ne_eq, not_true_eq_false, false_and, not_false_eq_true, iff_true]
    intro message machine' same
    cases same
    rfl
  · rw [sent, allowed]
    cases sending.hook with
    | ok =>
      constructor
      · intro _ rejects
        obtain ⟨_, _, rejected⟩ := rejects
        cases rejected
      · intro _ message machine' same
        cases same
    | error message =>
      constructor
      · intro unmoved _
        exact moved_ne sending nextState (unmoved message _ rfl)
      · intro quiet
        exact absurd ⟨nofun, message, rfl⟩ quiet

/-- In a run, rejected calls leave the machine as it was exactly when no hook rejects a transition. -/
theorem rejected_sends_unmoved_iff (initialContext : InitialContext) (now : Nat) (sendings : List Sending) :
    (∀ sending older, sending :: older <:+ sendings → Unmoved (final (new initialContext now) older) sending) ↔
      ∀ sending older, sending :: older <:+ sendings →
        ¬ HookRejects (final (new initialContext now) older) sending := by
  simp only [unmoved_iff]

def sampleInitial : InitialContext := ⟨"workflow", "delegation", "user"⟩

def unwritten : Sending where
  event := .productFound "product" "merchant" 10
  updatedAt := 1
  timestamp := 1
  hook := .error "Connection terminated unexpectedly"

/-- The call is rejected, and the machine has moved on. -/
theorem rejected_send_moves : ¬ Unmoved (new sampleInitial 0) unwritten := by
  intro unmoved
  have same := unmoved _ _ rfl
  revert same
  decide

end Rejections

end Delego.Machine
