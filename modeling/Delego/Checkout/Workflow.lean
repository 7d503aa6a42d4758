import Delego.Shared.Run
import Delego.Shared.Text

set_option autoImplicit false

namespace Delego.Checkout

open Shared

inductive CheckoutState where
  | initiated
  | pendingApproval
  | approved
  | funding
  | completed
  | cancelled
  deriving DecidableEq

def CheckoutState.name : CheckoutState → String
  | .initiated => "initiated"
  | .pendingApproval => "pending_approval"
  | .approved => "approved"
  | .funding => "funding"
  | .completed => "completed"
  | .cancelled => "cancelled"

def CheckoutState.terminal (state : CheckoutState) : Bool := state = .completed || state = .cancelled

def allowedTransitions : CheckoutState → List CheckoutState
  | .initiated => [.pendingApproval, .cancelled]
  | .pendingApproval => [.approved, .cancelled]
  | .approved => [.funding, .cancelled]
  | .funding => [.completed, .cancelled]
  | .completed => []
  | .cancelled => []

def validReasons : List String :=
  ["user_rejected", "approval_timeout", "funding_failed", "merchant_unavailable", "system_error"]

-- The envelope of an event with its payload.
structure CheckoutWorkflowEvent where
  correlationId : String
  orderId : String
  type : String
  fromState : CheckoutState
  toState : CheckoutState
  cancellationReason : Option String
  timestamp : Nat
  deriving DecidableEq

structure CheckoutWorkflow where
  orderId : String
  correlationId : String
  state : CheckoutState
  cancellationReason : Option String
  deriving DecidableEq

namespace CheckoutWorkflow

def new (orderId correlationId : String) : CheckoutWorkflow where
  orderId
  correlationId
  state := .initiated
  cancellationReason := none

variable (workflow : CheckoutWorkflow)

def event (fromState toState : CheckoutState) (reason : Option String) (timestamp : Nat) :
    CheckoutWorkflowEvent where
  correlationId := workflow.correlationId
  orderId := workflow.orderId
  type := "checkout_" ++ toState.name
  fromState
  toState
  cancellationReason := Text.truthy reason
  timestamp

def recordReason (reason : Option String) : Except String Unit × CheckoutWorkflow :=
  match Text.truthy reason with
  | none => (.error "Cancellation reason is required for transition to cancelled state", workflow)
  | some reason =>
    if reason ∈ validReasons then (.ok (), { workflow with cancellationReason := some reason })
    else (.error ("Invalid cancellation reason: " ++ reason), workflow)

def transitionTo (nextState : String) (reason : Option String) (timestamp : Nat) :
    Except String CheckoutWorkflowEvent × CheckoutWorkflow :=
  let currentState := workflow.state
  if currentState.terminal then
    (.error ("Cannot transition from terminal state: " ++ currentState.name), workflow)
  else
    match (allowedTransitions currentState).find? (·.name = nextState) with
    | none =>
      (.error ("Invalid state transition from " ++ currentState.name ++ " to " ++ nextState), workflow)
    | some nextState =>
      let recorded := if nextState = .cancelled then workflow.recordReason reason else (.ok (), workflow)
      match recorded with
      | (.error message, workflow') => (.error message, workflow')
      | (.ok (), workflow') =>
        let workflow' := { workflow' with state := nextState }
        (.ok (workflow'.event currentState nextState reason timestamp), workflow')

end CheckoutWorkflow

structure Workflows where
  workflows : List CheckoutWorkflow
  emittedEvents : List CheckoutWorkflowEvent
  publishedWorkflowEvents : List CheckoutWorkflowEvent
  deriving DecidableEq

namespace Workflows

def empty : Workflows := ⟨[], [], []⟩

def emitCheckoutEvent (system : Workflows) (event : CheckoutWorkflowEvent) : Workflows :=
  { system with
    emittedEvents := system.emittedEvents ++ [event]
    publishedWorkflowEvents := system.publishedWorkflowEvents ++ [event] }

-- A workflow is named by its place in the order of creation.
inductive Input where
  | create (orderId correlationId : String) (timestamp : Nat)
  | transitionTo (id : Nat) (nextState : String) (reason : Option String) (timestamp : Nat)

inductive Outcome where
  | done
  | threw (message : String)
  | absent
  deriving DecidableEq

def step (system : Workflows) : Input → Outcome × Workflows
  | .create orderId correlationId timestamp =>
    let workflow := CheckoutWorkflow.new orderId correlationId
    (.done, { system with workflows := system.workflows ++ [workflow] }.emitCheckoutEvent
      (workflow.event .initiated .initiated none timestamp))
  | .transitionTo id nextState reason timestamp =>
    match system.workflows[id]? with
    | none => (.absent, system)
    | some workflow =>
      match workflow.transitionTo nextState reason timestamp with
      | (.error message, workflow') =>
        (.threw message, { system with workflows := system.workflows.set id workflow' })
      | (.ok event, workflow') =>
        (.done, { system with workflows := system.workflows.set id workflow' }.emitCheckoutEvent event)

abbrev WorkflowReceipt := Receipt Workflows Input Outcome

def final (inputs : List Input) : Workflows := Run.final step empty inputs

def history (inputs : List Input) : List WorkflowReceipt := Run.history step empty inputs

end Workflows

open Workflows

section Account

namespace WorkflowReceipt

variable (receipt : WorkflowReceipt)

def subject : Nat :=
  match receipt.input with
  | .create .. => receipt.before.workflows.length
  | .transitionTo id .. => id

-- What a step adds to the events, newest first.
def emission : List CheckoutWorkflowEvent :=
  (receipt.after.emittedEvents.drop receipt.before.emittedEvents.length).reverse

def succeeds : Bool :=
  match receipt.input, receipt.output with
  | .transitionTo .., .done => true
  | _, _ => false

end WorkflowReceipt

variable (id : Nat) (past : List WorkflowReceipt)

def about : List WorkflowReceipt := past.filter fun receipt => WorkflowReceipt.subject receipt = id

def emittedBy : List CheckoutWorkflowEvent := (about id past).flatMap WorkflowReceipt.emission

def succeeded : Nat := (about id past).countP WorkflowReceipt.succeeds

-- The events, newest first, lead from `initiated` to the state by allowed transitions.
def Contiguous : List CheckoutWorkflowEvent → CheckoutState → Prop
  | [], state => state = .initiated
  | event :: earlier, state =>
    event.toState = state ∧ event.toState ∈ allowedTransitions event.fromState ∧
      Contiguous earlier event.fromState

structure Accounted (workflow : CheckoutWorkflow) : Prop where
  chained : ∃ later first, emittedBy id past = later ++ [first] ∧ first.fromState = .initiated ∧
    first.toState = .initiated ∧ Contiguous later workflow.state ∧ later.length = succeeded id past
  identified : ∀ event ∈ emittedBy id past, event.correlationId = workflow.correlationId ∧
    event.orderId = workflow.orderId ∧ event.type = "checkout_" ++ event.toState.name
  explained : (∃ reason, workflow.cancellationReason = some reason) ↔ workflow.state = .cancelled
  valid : ∀ reason, workflow.cancellationReason = some reason → reason ∈ validReasons

end Account

structure WorkflowsSound (inputs : List Input) : Prop where
  rejected : ∀ receipt ∈ history inputs, ∀ message, receipt.output = .threw message →
    receipt.after = receipt.before
  accounted : ∀ id workflow, (final inputs).workflows[id]? = some workflow →
    Accounted id (history inputs) workflow
  closed : ∀ receipt ∈ history inputs, ∀ id nextState reason timestamp workflow,
    receipt.input = .transitionTo id nextState reason timestamp →
    receipt.before.workflows[id]? = some workflow →
    workflow.state = .completed ∨ workflow.state = .cancelled → ∃ message, receipt.output = .threw message
  logged : (final inputs).emittedEvents = ((history inputs).flatMap WorkflowReceipt.emission).reverse ∧
    (final inputs).publishedWorkflowEvents = (final inputs).emittedEvents

section Attempts

open CheckoutWorkflow

structure Moves (workflow : CheckoutWorkflow) (reason : Option String) (workflow' : CheckoutWorkflow) :
    Prop where
  allowed : workflow'.state ∈ allowedTransitions workflow.state
  named : workflow'.orderId = workflow.orderId ∧ workflow'.correlationId = workflow.correlationId
  recorded : (workflow'.state = .cancelled ∧ ∃ given ∈ validReasons,
      reason = some given ∧ workflow'.cancellationReason = some given) ∨
    workflow'.state ≠ .cancelled ∧ workflow'.cancellationReason = workflow.cancellationReason

theorem recordReason_cases (workflow : CheckoutWorkflow) (reason : Option String) :
    (∃ message, workflow.recordReason reason = (.error message, workflow)) ∨
    ∃ given ∈ validReasons, reason = some given ∧
      workflow.recordReason reason = (.ok (), { workflow with cancellationReason := some given }) := by
  unfold recordReason
  cases told : Text.truthy reason with
  | none => exact .inl ⟨_, rfl⟩
  | some truthy =>
    dsimp only
    by_cases valid : truthy ∈ validReasons
    · rw [if_pos valid]
      exact .inr ⟨truthy, valid, (Option.filter_eq_some_iff.mp told).1, rfl⟩
    · rw [if_neg valid]
      exact .inl ⟨_, rfl⟩

theorem transitionTo_cases (workflow : CheckoutWorkflow) (nextState : String) (reason : Option String)
    (timestamp : Nat) :
    (∃ message, workflow.transitionTo nextState reason timestamp = (.error message, workflow)) ∨
    ∃ workflow', Moves workflow reason workflow' ∧
      workflow.transitionTo nextState reason timestamp =
        (.ok (workflow'.event workflow.state workflow'.state reason timestamp), workflow') := by
  unfold transitionTo
  dsimp only
  by_cases terminal : workflow.state.terminal = true
  · rw [if_pos terminal]
    exact .inl ⟨_, rfl⟩
  rw [if_neg terminal]
  cases found : (allowedTransitions workflow.state).find? (·.name = nextState) with
  | none => exact .inl ⟨_, rfl⟩
  | some target =>
    have allowed := List.mem_of_find?_eq_some found
    dsimp only
    by_cases cancelling : target = .cancelled
    · rw [if_pos cancelling]
      rcases recordReason_cases workflow reason with ⟨message, refused⟩ | ⟨given, valid, told, recorded⟩
      · rw [refused]
        exact .inl ⟨message, rfl⟩
      · rw [recorded]
        exact .inr ⟨{ workflow with state := target, cancellationReason := some given },
          ⟨allowed, ⟨rfl, rfl⟩, .inl ⟨cancelling, given, valid, told, rfl⟩⟩, rfl⟩
    · rw [if_neg cancelling]
      exact .inr ⟨{ workflow with state := target },
        ⟨allowed, ⟨rfl, rfl⟩, .inr ⟨cancelling, rfl⟩⟩, rfl⟩

theorem transitionTo_terminal {workflow : CheckoutWorkflow} (nextState : String) (reason : Option String)
    (timestamp : Nat) (terminal : workflow.state = .completed ∨ workflow.state = .cancelled) :
    ∃ message, workflow.transitionTo nextState reason timestamp = (.error message, workflow) := by
  have closed : workflow.state.terminal = true := by
    rcases terminal with state | state <;> simp [CheckoutState.terminal, state]
  exact ⟨_, by rw [transitionTo, if_pos closed]⟩

theorem set_same {workflows : List CheckoutWorkflow} {id : Nat} {workflow : CheckoutWorkflow}
    (held : workflows[id]? = some workflow) : workflows.set id workflow = workflows := by
  obtain ⟨bound, rfl⟩ := List.getElem?_eq_some_iff.mp held
  exact List.set_getElem_self bound

theorem attempt_cases (system : Workflows) (id : Nat) (nextState : String) (reason : Option String)
    (timestamp : Nat) :
    (system.workflows[id]? = none ∧
      step system (.transitionTo id nextState reason timestamp) = (.absent, system)) ∨
    (∃ message, step system (.transitionTo id nextState reason timestamp) = (.threw message, system)) ∨
    ∃ workflow workflow', system.workflows[id]? = some workflow ∧ Moves workflow reason workflow' ∧
      step system (.transitionTo id nextState reason timestamp) =
        (.done, { system with workflows := system.workflows.set id workflow' }.emitCheckoutEvent
          (workflow'.event workflow.state workflow'.state reason timestamp)) := by
  simp only [step]
  cases held : system.workflows[id]? with
  | none => exact .inl ⟨rfl, rfl⟩
  | some workflow =>
    refine .inr ?_
    dsimp only
    rcases transitionTo_cases workflow nextState reason timestamp with
      ⟨message, refused⟩ | ⟨workflow', moves, moved⟩
    · rw [refused]
      exact .inl ⟨message, by simp [set_same held]⟩
    · rw [moved]
      exact .inr ⟨workflow, workflow', rfl, moves, rfl⟩

end Attempts

section Kept

variable {id : Nat} {past : List WorkflowReceipt} {receipt : WorkflowReceipt}
  {workflow workflow' : CheckoutWorkflow}

theorem emittedBy_cons (id : Nat) (past : List WorkflowReceipt) (receipt : WorkflowReceipt) :
    emittedBy id (receipt :: past) = if WorkflowReceipt.subject receipt = id then
      WorkflowReceipt.emission receipt ++ emittedBy id past else emittedBy id past := by
  by_cases same : WorkflowReceipt.subject receipt = id <;> simp [emittedBy, about, same]

theorem succeeded_cons (id : Nat) (past : List WorkflowReceipt) (receipt : WorkflowReceipt) :
    succeeded id (receipt :: past) =
      if WorkflowReceipt.subject receipt = id ∧ WorkflowReceipt.succeeds receipt = true then
        succeeded id past + 1 else succeeded id past := by
  by_cases same : WorkflowReceipt.subject receipt = id <;>
    by_cases success : WorkflowReceipt.succeeds receipt = true <;>
      simp [succeeded, about, same, success]

theorem emission_none (same : receipt.after = receipt.before) :
    WorkflowReceipt.emission receipt = [] := by
  simp [WorkflowReceipt.emission, same]

theorem emission_one {event : CheckoutWorkflowEvent}
    (grown : receipt.after.emittedEvents = receipt.before.emittedEvents ++ [event]) :
    WorkflowReceipt.emission receipt = [event] := by
  simp [WorkflowReceipt.emission, grown]

theorem Accounted.same (accounted : Accounted id past workflow)
    (emitted : emittedBy id (receipt :: past) = emittedBy id past)
    (counted : succeeded id (receipt :: past) = succeeded id past) :
    Accounted id (receipt :: past) workflow where
  chained := by
    rw [emitted, counted]
    exact accounted.chained
  identified := by
    rw [emitted]
    exact accounted.identified
  explained := accounted.explained
  valid := accounted.valid

theorem Accounted.other (accounted : Accounted id past workflow)
    (other : WorkflowReceipt.subject receipt ≠ id) : Accounted id (receipt :: past) workflow :=
  accounted.same (by rw [emittedBy_cons, if_neg other]) (by rw [succeeded_cons, if_neg (by simp [other])])

theorem Accounted.created {event : CheckoutWorkflowEvent} {orderId correlationId : String} {timestamp : Nat}
    (fresh : emittedBy id past = [] ∧ succeeded id past = 0)
    (own : WorkflowReceipt.subject receipt = id) (uncounted : WorkflowReceipt.succeeds receipt = false)
    (emission : WorkflowReceipt.emission receipt = [event])
    (first : event =
      (CheckoutWorkflow.new orderId correlationId).event .initiated .initiated none timestamp) :
    Accounted id (receipt :: past) (.new orderId correlationId) := by
  have emitted : emittedBy id (receipt :: past) = [event] := by
    rw [emittedBy_cons, if_pos own, emission, fresh.1, List.append_nil]
  have counted : succeeded id (receipt :: past) = 0 := by
    rw [succeeded_cons, if_neg (by simp [uncounted]), fresh.2]
  cases first
  constructor
  · exact ⟨[], _, emitted, rfl, rfl, rfl, counted.symm⟩
  · rw [emitted]
    intro event member
    cases List.mem_singleton.mp member
    exact ⟨rfl, rfl, rfl⟩
  · simp [CheckoutWorkflow.new]
  · simp [CheckoutWorkflow.new]

theorem Accounted.moves {event : CheckoutWorkflowEvent} {reason : Option String} {timestamp : Nat}
    (accounted : Accounted id past workflow) (moves : Moves workflow reason workflow')
    (own : WorkflowReceipt.subject receipt = id) (success : WorkflowReceipt.succeeds receipt = true)
    (emission : WorkflowReceipt.emission receipt = [event])
    (next : event = workflow'.event workflow.state workflow'.state reason timestamp) :
    Accounted id (receipt :: past) workflow' := by
  obtain ⟨later, first, chain, start, initiated, contiguous, counted⟩ := accounted.chained
  have emitted : emittedBy id (receipt :: past) = event :: emittedBy id past := by
    rw [emittedBy_cons, if_pos own, emission, List.singleton_append]
  have grown : succeeded id (receipt :: past) = succeeded id past + 1 := by
    rw [succeeded_cons, if_pos ⟨own, success⟩]
  have open' : workflow.state ≠ .cancelled := by
    intro cancelled
    have allowed := moves.allowed
    rw [cancelled] at allowed
    cases allowed
  cases next
  constructor
  · refine ⟨_ :: later, first, by rw [emitted, chain, List.cons_append], start, initiated,
      ⟨rfl, moves.allowed, contiguous⟩, ?_⟩
    rw [List.length_cons, counted, grown]
  · rw [emitted]
    intro event member
    rcases List.mem_cons.mp member with rfl | earlier
    · exact ⟨rfl, rfl, rfl⟩
    · rw [moves.named.1, moves.named.2]
      exact accounted.identified event earlier
  · rcases moves.recorded with ⟨cancelled, given, _, _, recorded⟩ | ⟨live, unrecorded⟩
    · exact ⟨fun _ => cancelled, fun _ => ⟨given, recorded⟩⟩
    · rw [unrecorded, accounted.explained]
      exact ⟨fun cancelled => absurd cancelled open', fun cancelled => absurd cancelled live⟩
  · rcases moves.recorded with ⟨_, given, valid, _, recorded⟩ | ⟨_, unrecorded⟩
    · intro reason told
      rw [recorded] at told
      cases told
      exact valid
    · rw [unrecorded]
      exact accounted.valid

/-- The invariant of the runs: the workflows that there are account for their own events, those that
there are not yet have none, and the logs hold nothing else. -/
structure Kept (past : List WorkflowReceipt) (system : Workflows) : Prop where
  accounted : ∀ id workflow, system.workflows[id]? = some workflow → Accounted id past workflow
  fresh : ∀ id, system.workflows.length ≤ id → emittedBy id past = [] ∧ succeeded id past = 0
  logged : system.emittedEvents = (past.flatMap WorkflowReceipt.emission).reverse
  published : system.publishedWorkflowEvents = system.emittedEvents

variable {system : Workflows}

theorem Kept.quiet (kept : Kept past system) (same : receipt.after = receipt.before)
    (uncounted : WorkflowReceipt.succeeds receipt = false) : Kept (receipt :: past) system := by
  have emission := emission_none same
  have emitted : ∀ id, emittedBy id (receipt :: past) = emittedBy id past := by
    intro id
    simp [emittedBy_cons, emission]
  have counted : ∀ id, succeeded id (receipt :: past) = succeeded id past := by
    intro id
    simp [succeeded_cons, uncounted]
  constructor
  · intro id workflow held
    exact (kept.accounted id workflow held).same (emitted id) (counted id)
  · intro id beyond
    rw [emitted, counted]
    exact kept.fresh id beyond
  · simpa [emission] using kept.logged
  · exact kept.published

theorem Kept.created {orderId correlationId : String} {timestamp : Nat} (kept : Kept past system) :
    Kept (Run.observe step system (.create orderId correlationId timestamp) :: past)
      (step system (.create orderId correlationId timestamp)).2 := by
  have emission : WorkflowReceipt.emission
      (Run.observe step system (.create orderId correlationId timestamp)) =
      [(CheckoutWorkflow.new orderId correlationId).event .initiated .initiated none timestamp] :=
    emission_one rfl
  constructor
  · intro id workflow held
    by_cases existing : id < system.workflows.length
    · have before : system.workflows[id]? = some workflow := by
        rw [← held]
        exact (List.getElem?_append_left existing).symm
      exact (kept.accounted id workflow before).other (by
        show system.workflows.length ≠ id
        omega)
    · have last : id = system.workflows.length ∧ workflow = .new orderId correlationId := by
        have appended :
            (system.workflows ++ [CheckoutWorkflow.new orderId correlationId])[id]? = some workflow :=
          held
        rw [List.getElem?_append_right (by omega), List.getElem?_singleton] at appended
        split at appended
        next same => exact ⟨by omega, (Option.some.inj appended).symm⟩
        next => cases appended
      obtain ⟨rfl, rfl⟩ := last
      exact .created (kept.fresh _ (Nat.le_refl _)) rfl rfl emission rfl
  · intro id beyond
    have beyond' : system.workflows.length + 1 ≤ id := by
      simpa [step, emitCheckoutEvent] using beyond
    have other : WorkflowReceipt.subject
        (Run.observe step system (.create orderId correlationId timestamp)) ≠ id := by
      show system.workflows.length ≠ id
      omega
    rw [emittedBy_cons, if_neg other, succeeded_cons, if_neg (by simp [other])]
    exact kept.fresh id (by omega)
  · simp [step, emitCheckoutEvent, emission, kept.logged]
  · simp [step, emitCheckoutEvent, kept.published]

theorem Kept.attempted {nextState : String} {reason : Option String} {timestamp : Nat}
    (kept : Kept past system) :
    Kept (Run.observe step system (.transitionTo id nextState reason timestamp) :: past)
      (step system (.transitionTo id nextState reason timestamp)).2 := by
  rcases attempt_cases system id nextState reason timestamp with
    ⟨_, absent⟩ | ⟨message, threw⟩ | ⟨workflow, workflow', held, moves, moved⟩
  · rw [Run.observe, absent]
    exact kept.quiet rfl rfl
  · rw [Run.observe, threw]
    exact kept.quiet rfl rfl
  · have emission : WorkflowReceipt.emission
        (Run.observe step system (.transitionTo id nextState reason timestamp)) =
        [workflow'.event workflow.state workflow'.state reason timestamp] :=
      emission_one (by simp only [Run.observe, moved, emitCheckoutEvent])
    have success : WorkflowReceipt.succeeds
        (Run.observe step system (.transitionTo id nextState reason timestamp)) = true := by
      simp only [Run.observe, moved, WorkflowReceipt.succeeds]
    rw [moved]
    constructor
    · intro id' workflow'' held'
      by_cases same : id = id'
      · cases same
        have bound := (List.getElem?_eq_some_iff.mp held).1
        have changed : (system.workflows.set id workflow')[id]? = some workflow'' := held'
        rw [List.getElem?_set_self bound] at changed
        cases changed
        exact (kept.accounted id workflow held).moves moves rfl success emission rfl
      · have before : system.workflows[id']? = some workflow'' := by
          rw [← held']
          exact (List.getElem?_set_ne same).symm
        exact (kept.accounted id' workflow'' before).other same
    · intro id' beyond
      have beyond' : system.workflows.length ≤ id' := by simpa [emitCheckoutEvent] using beyond
      have other : id ≠ id' := by
        have bound := (List.getElem?_eq_some_iff.mp held).1
        omega
      have elsewhere : WorkflowReceipt.subject
          (Run.observe step system (.transitionTo id nextState reason timestamp)) ≠ id' := other
      rw [emittedBy_cons, if_neg elsewhere, succeeded_cons, if_neg fun both => elsewhere both.1]
      exact kept.fresh id' beyond'
    · simp [emitCheckoutEvent, emission, kept.logged]
    · simp [emitCheckoutEvent, kept.published]

theorem kept_history (inputs : List Input) : Kept (history inputs) (final inputs) := by
  apply Run.invariant
  · constructor
    · intro id workflow held
      simp [empty] at held
    · intro id _
      exact ⟨rfl, rfl⟩
    · rfl
    · rfl
  · intro past system input kept
    cases input with
    | create => exact kept.created
    | transitionTo => exact kept.attempted

end Kept

/-- Any number of checkout workflows, under any sequence of attempts at transitions. -/
theorem workflows_sound (inputs : List Input) : WorkflowsSound inputs := by
  have kept := kept_history inputs
  constructor
  · apply Run.history_forall
    intro system input message threw
    cases input with
    | create => cases threw
    | transitionTo id nextState reason timestamp =>
      rcases attempt_cases system id nextState reason timestamp with
        ⟨_, absent⟩ | ⟨_, refused⟩ | ⟨_, _, _, _, moved⟩
      · simp only [Run.observe, absent]
      · simp only [Run.observe, refused]
      · simp only [Run.observe, moved] at threw
        cases threw
  · exact kept.accounted
  · apply Run.history_forall
    intro system input id nextState reason timestamp workflow attempt held terminal
    cases attempt
    have existing : system.workflows[id]? = some workflow := held
    obtain ⟨message, refused⟩ := transitionTo_terminal nextState reason timestamp terminal
    exact ⟨message, by simp only [Run.observe, step, existing, refused]⟩
  · exact ⟨kept.logged, kept.published⟩

end Delego.Checkout
