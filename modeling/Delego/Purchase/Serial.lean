import Delego.Purchase.Workflow
import Delego.Shared.Replay
import Delego.Shared.Run

set_option autoImplicit false

namespace Delego.Purchase

open Shared Shared.Replay

variable {table : Workflows} {system : System} {orderId : String} {inputs : List Input}
  {row stored : WorkflowRow}

abbrev Position := PurchaseState × PurchaseContext

def WorkflowRow.position (row : WorkflowRow) : Position := (row.state, row.context)

def advance (position : Position) (event : PurchaseEvent) : Option Position :=
  (applyEvent position.1 event position.2).toOption

def PurchaseState.terminal : PurchaseState → Bool
  | .completed | .cancelled | .failed => true
  | _ => false

theorem transitions_terminal {state : PurchaseState} (terminal : state.terminal = true)
    (type : PurchaseEventType) : transitions state type = none := by
  cases state <;> first | rfl | cases terminal

theorem advance_eq_some {position next : Position} {event : PurchaseEvent} :
    advance position event = some next ↔
      transitions position.1 event.type = some next.1 ∧ position.2.updated event = next.2 := by
  obtain ⟨state, context⟩ := next
  unfold advance applyEvent
  cases transitions position.1 event.type with
  | none => simp [Except.toOption]
  | some target => simp [Except.toOption]

abbrev WorkflowReceipt := Receipt System Input (Option Effect)

def start (table : Workflows) : System where
  table
  calls _ := .idle

-- Any number of calls over one table, newest input first.
def final (table : Workflows) (inputs : List Input) : System := Run.final step (start table) inputs

def history (table : Workflows) (inputs : List Input) : List WorkflowReceipt :=
  Run.history step (start table) inputs

def Effect.acceptedFor (orderId : String) : Effect → Option PurchaseEvent
  | .persisted named event _ => if named = orderId then some event else none
  | .published _ => none

-- The transitions of an order that have been persisted, newest first.
def accepted (orderId : String) (past : List WorkflowReceipt) : List PurchaseEvent :=
  past.filterMap fun receipt => receipt.output.bind (Effect.acceptedFor orderId)

/-- The transitions of an order come one after the other: each persisted state succeeds the one
persisted before it, the stored row is what the accepted transitions make of the first one, and a
terminal row stays. -/
structure Serialized (table : Workflows) (orderId : String) (inputs : List Input) : Prop where
  succeeds : ∀ receipt ∈ history table inputs, ∀ event row,
    receipt.output = some (.persisted orderId event row) →
      ∃ previous type, receipt.before.table orderId = some previous ∧
        transitions previous.state type = some row.state
  applied : ∀ older, older <:+ inputs → ∀ row, table orderId = some row →
    ∃ stored, (final table older).table orderId = some stored ∧
      replay advance row.position (accepted orderId (history table older)) = some stored.position
  stays : ∀ older newer, older <:+ newer → newer <:+ inputs → ∀ row,
    (final table older).table orderId = some row → row.state.terminal = true →
      (final table newer).table orderId = some row

/-- The row that is stored when a transition is persisted lets its event lead where it led from the
row that was read, and differs from that one in nothing but what the event sets. -/
def Current (orderId : String) (receipt : WorkflowReceipt) : Prop :=
  ∀ id caller snapshot next, receipt.input = .persist id →
    receipt.before.calls id = .persisting caller snapshot next → caller.orderId = orderId →
      ∀ stored, receipt.before.table orderId = some stored →
        transitions stored.state caller.event.type = transitions snapshot.state caller.event.type ∧
          stored.context.updated caller.event = snapshot.context.updated caller.event

def Validated (table : Workflows) : CallPhase → Prop
  | .persisting caller snapshot next => next.orderId = caller.orderId ∧
      transitions snapshot.state caller.event.type = some next.state ∧
      snapshot.context.updated caller.event = next.context ∧ table caller.orderId ≠ none
  | _ => True

def AllValidated (system : System) : Prop := ∀ id, Validated system.table (system.calls id)

def WorkflowSnapshot.toRow (snapshot : WorkflowSnapshot) : WorkflowRow :=
  ⟨snapshot.state, snapshot.context, snapshot.updatedAt⟩

inductive Turn (system : System) : Input → Option Effect → System → Prop
  | quiet {input : Input} {effect : Option Effect} {after : System}
      (table : after.table = system.table)
      (unsaid : ∀ orderId event row, effect ≠ some (.persisted orderId event row))
      (unsaved : ∀ id caller snapshot next, input = .persist id →
        system.calls id ≠ .persisting caller snapshot next)
      (calls : ∀ id, Validated system.table (system.calls id) →
        Validated system.table (after.calls id)) :
      Turn system input effect after
  | persisted {id : Nat} {caller : Caller} {snapshot next : WorkflowSnapshot} {after : System}
      (persisting : system.calls id = .persisting caller snapshot next)
      (table : after.table = persistWorkflow system.table next)
      (calls : after.calls =
        Function.update system.calls id (.publishing caller snapshot.state next)) :
      Turn system (.persist id) (some (.persisted next.orderId caller.event next.toRow)) after

theorem validate_validated (table : Workflows) (caller : Caller) (now : Nat) :
    Validated table (validate table caller now) := by
  cases found : table caller.orderId with
  | none => simp [validate, loadWorkflow, found, Validated]
  | some row =>
    cases target : transitions row.state caller.event.type with
    | none => simp [validate, loadWorkflow, found, applyEvent, target, Validated]
    | some state => simp [validate, loadWorkflow, found, applyEvent, target, Validated]

theorem Validated.updated {id : Nat} {phase : CallPhase}
    (validated : Validated system.table phase) (other : Nat)
    (before : Validated system.table (system.calls other)) :
    Validated system.table ((system.withCall id phase).calls other) := by
  by_cases same : other = id
  · simpa [System.withCall, same] using validated
  · simpa [System.withCall, same] using before

theorem ignored {input : Input} (unsaved : ∀ id caller snapshot next, input = .persist id →
      system.calls id ≠ .persisting caller snapshot next) : Turn system input none system :=
  .quiet rfl (fun _ _ _ same => by cases same) unsaved fun _ validated => validated

theorem moved {input : Input} {id : Nat} {phase : CallPhase} {effect : Option Effect}
    (nothing : ∀ orderId event row, effect ≠ some (.persisted orderId event row))
    (unsaved : ∀ id caller snapshot next, input = .persist id →
      system.calls id ≠ .persisting caller snapshot next)
    (validated : Validated system.table phase) :
    Turn system input effect (system.withCall id phase) :=
  .quiet rfl nothing unsaved fun other => validated.updated other

theorem step_turn (system : System) (input : Input) :
    Turn system input (step system input).1 (step system input).2 := by
  cases input with
  | call id caller =>
    cases phase : system.calls id with
    | idle =>
      simp only [step, phase]
      exact moved (by simp) (by simp) trivial
    | loading | persisting | publishing | returned =>
      simp only [step, phase]
      exact ignored (by simp)
  | load id now =>
    cases phase : system.calls id with
    | loading caller =>
      simp only [step, phase]
      exact moved (by simp) (by simp) (validate_validated system.table caller now)
    | idle | persisting | publishing | returned =>
      simp only [step, phase]
      exact ignored (by simp)
  | persist id =>
    cases phase : system.calls id with
    | persisting caller snapshot next =>
      simp only [step, phase]
      exact .persisted phase rfl rfl
    | idle | loading | publishing | returned =>
      simp only [step, phase]
      refine ignored ?_
      rintro _ caller snapshot next ⟨⟩
      simp [phase]
  | publish id delivered =>
    cases phase : system.calls id with
    | publishing caller previousState next =>
      simp only [step, phase]
      refine moved ?_ (by simp) trivial
      cases delivered <;> simp
    | idle | loading | persisting | returned =>
      simp only [step, phase]
      exact ignored (by simp)
  | reject id message =>
    cases phase : system.calls id with
    | loading | persisting | publishing =>
      simp only [step, phase]
      exact moved (by simp) (by simp) trivial
    | idle | returned =>
      simp only [step, phase]
      exact ignored (by simp)

theorem Turn.validated {input : Input} {effect : Option Effect} {after : System}
    (turn : Turn system input effect after) (all : AllValidated system) : AllValidated after := by
  intro id
  cases turn with
  | quiet table _ _ calls =>
    rw [table]
    exact calls id (all id)
  | @persisted writer caller snapshot next _ persisting table calls =>
    have present (orderId : String) (some : system.table orderId ≠ none) :
        after.table orderId ≠ none := by
      rw [table, persistWorkflow]
      by_cases same : orderId = next.orderId
      · simp [same]
      · simpa [same] using some
    by_cases same : id = writer
    · simp [calls, same, Validated]
    · rw [calls, Function.update_of_ne same]
      have before := all id
      cases phase : system.calls id with
      | persisting caller snapshot next =>
        rw [phase] at before
        exact ⟨before.1, before.2.1, before.2.2.1, present _ before.2.2.2⟩
      | idle | loading | publishing | returned => trivial

theorem final_validated (table : Workflows) (inputs : List Input) :
    AllValidated (final table inputs) := by
  induction inputs with
  | nil => exact fun _ => trivial
  | cons input earlier ih => exact (step_turn (final table earlier) input).validated ih

theorem accepted_cons (receipt : WorkflowReceipt) (past : List WorkflowReceipt) :
    accepted orderId (receipt :: past) =
      (receipt.output.bind (Effect.acceptedFor orderId)).toList ++ accepted orderId past := by
  cases event : receipt.output.bind (Effect.acceptedFor orderId) with
  | none => simp [accepted, event]
  | some event' => simp [accepted, event]

theorem order_step (all : AllValidated system) (orderId : String) (input : Input) :
    ((step system input).2.table orderId = system.table orderId ∧
        (∀ event row, (step system input).1 ≠ some (.persisted orderId event row)) ∧
        ∀ id caller snapshot next, input = .persist id →
          system.calls id = .persisting caller snapshot next → caller.orderId ≠ orderId) ∨
      ∃ id caller snapshot next stored, input = .persist id ∧
        system.calls id = .persisting caller snapshot next ∧ caller.orderId = orderId ∧
        system.table orderId = some stored ∧
        (step system input).1 = some (.persisted orderId caller.event next.toRow) ∧
        (step system input).2.table orderId = some next.toRow ∧
        transitions snapshot.state caller.event.type = some next.state ∧
        snapshot.context.updated caller.event = next.context := by
  have turn := step_turn system input
  generalize (step system input).1 = effect at turn ⊢
  generalize (step system input).2 = after at turn ⊢
  cases turn with
  | quiet table unsaid unsaved =>
    refine .inl ⟨congrFun table orderId, unsaid orderId, ?_⟩
    intro id caller snapshot next same persisting
    exact absurd persisting (unsaved id caller snapshot next same)
  | @persisted id caller snapshot next _ persisting table =>
    have validated := all id
    rw [persisting] at validated
    obtain ⟨named, target, context, present⟩ := validated
    by_cases ours : caller.orderId = orderId
    · obtain ⟨stored, found⟩ := Option.ne_none_iff_exists'.mp present
      rw [ours] at named found
      refine .inr ⟨id, caller, snapshot, next, stored, rfl, persisting, ours, found, ?_, ?_, target,
        context⟩
      · rw [named]
      · simp [table, persistWorkflow, named, WorkflowSnapshot.toRow]
    · refine .inl ⟨?_, ?_, ?_⟩
      · rw [table, persistWorkflow, named, Function.update_of_ne (Ne.symm ours)]
      · intro event row same
        injection same with same
        injection same with same
        exact ours (named.symm.trans same)
      · intro id' caller' snapshot' next' same persisting'
        cases same
        cases persisting.symm.trans persisting'
        exact ours

theorem acceptedFor_none {effect : Option Effect}
    (unsaid : ∀ event row, effect ≠ some (.persisted orderId event row)) :
    effect.bind (Effect.acceptedFor orderId) = none := by
  cases effect with
  | none => rfl
  | some effect =>
    cases effect with
    | persisted named event row =>
      by_cases ours : named = orderId
      · subst ours
        exact absurd rfl (unsaid event row)
      · simp [Effect.acceptedFor, ours]
    | published event => rfl

theorem Current.allowed {id : Nat} {caller : Caller} {snapshot next : WorkflowSnapshot}
    (current : Current orderId (Run.observe step system (.persist id)))
    (persisting : system.calls id = .persisting caller snapshot next) (ours : caller.orderId = orderId)
    (found : system.table orderId = some stored)
    (target : transitions snapshot.state caller.event.type = some next.state)
    (context : snapshot.context.updated caller.event = next.context) :
    transitions stored.state caller.event.type = some next.state ∧
      stored.context.updated caller.event = next.context := by
  obtain ⟨same, agree⟩ := current id caller snapshot next rfl persisting ours stored found
  exact ⟨same.trans target, agree.trans context⟩

theorem current_applied (current : ∀ receipt ∈ history table inputs, Current orderId receipt)
    (row : WorkflowRow) (first : table orderId = some row) :
    ∃ stored, (final table inputs).table orderId = some stored ∧
      replay advance row.position (accepted orderId (history table inputs)) =
        some stored.position := by
  induction inputs with
  | nil => exact ⟨row, first, rfl⟩
  | cons input earlier ih =>
    obtain ⟨stored, found, replayed⟩ := ih fun receipt member => current receipt (.tail _ member)
    have here := current _ List.mem_cons_self
    change ∃ stored, (step (final table earlier) input).2.table orderId = some stored ∧
      replay advance row.position (accepted orderId
        (Run.observe step (final table earlier) input :: history table earlier)) = some stored.position
    rw [accepted_cons]
    rcases order_step (final_validated table earlier) orderId input with
      ⟨kept, unsaid, _⟩ | ⟨id, caller, snapshot, next, held, rfl, persisting, ours, present, said,
        written, target, context⟩
    · refine ⟨stored, kept.trans found, ?_⟩
      rw [Run.observe, acceptedFor_none unsaid]
      exact replayed
    · cases found.symm.trans present
      refine ⟨next.toRow, written, ?_⟩
      rw [Run.observe, said]
      simp only [Option.bind_some, Effect.acceptedFor, if_true, Option.toList_some, List.cons_append,
        List.nil_append]
      exact replay_step replayed
        (advance_eq_some.mpr (here.allowed persisting ours present target context))

theorem current_final (current : ∀ receipt ∈ history table inputs, Current orderId receipt)
    {older newer : List Input} (before : older <:+ newer) (within : newer <:+ inputs)
    (found : (final table older).table orderId = some row) (terminal : row.state.terminal = true) :
    (final table newer).table orderId = some row := by
  induction newer with
  | nil =>
    cases List.suffix_nil.mp before
    exact found
  | cons input earlier ih =>
    rcases List.suffix_cons_iff.mp before with same | longer
    · rwa [← same]
    · have held := ih longer ((List.suffix_cons ..).trans within)
      have here : Current orderId (Run.observe step (final table earlier) input) :=
        current _ ((Run.mem_history step _).mpr ⟨input, earlier, within, rfl⟩)
      rcases order_step (final_validated table earlier) orderId input with
        ⟨kept, _, _⟩ | ⟨id, caller, snapshot, next, stored, rfl, persisting, ours, present, _, _,
          target, context⟩
      · exact kept.trans held
      · -- The row would have to allow an event.
        cases held.symm.trans present
        obtain ⟨allowed, _⟩ := here.allowed persisting ours present target context
        cases (transitions_terminal terminal _).symm.trans allowed

theorem current_succeeds (current : ∀ receipt ∈ history table inputs, Current orderId receipt)
    {receipt : WorkflowReceipt} (member : receipt ∈ history table inputs) {event : PurchaseEvent}
    (said : receipt.output = some (.persisted orderId event row)) :
    ∃ previous type, receipt.before.table orderId = some previous ∧
      transitions previous.state type = some row.state := by
  obtain ⟨input, older, _, rfl⟩ := (Run.mem_history step _).mp member
  have here := current _ member
  rcases order_step (final_validated table older) orderId input with
    ⟨_, unsaid, _⟩ | ⟨id, caller, snapshot, next, stored, rfl, persisting, ours, present, told, _,
      target, context⟩
  · exact absurd said (unsaid event row)
  · obtain ⟨allowed, _⟩ := here.allowed persisting ours present target context
    cases told.symm.trans said
    exact ⟨stored, _, present, allowed⟩

theorem final_present (found : (final table inputs).table orderId = some stored) :
    ∃ row, table orderId = some row := by
  induction inputs generalizing stored with
  | nil => exact ⟨stored, found⟩
  | cons input earlier ih =>
    rcases order_step (final_validated table earlier) orderId input with
      ⟨kept, _⟩ | ⟨_, _, _, _, _, _, _, _, present, _⟩
    · exact ih (kept.symm.trans found)
    · exact ih present

theorem Serialized.current (serialized : Serialized table orderId inputs) {receipt : WorkflowReceipt}
    (member : receipt ∈ history table inputs) : Current orderId receipt := by
  obtain ⟨input, older, within, rfl⟩ := (Run.mem_history step _).mp member
  intro id caller snapshot next asked persisting ours stored found
  obtain rfl : input = .persist id := asked
  rcases order_step (final_validated table older) orderId (.persist id) with
    ⟨_, _, other⟩ | ⟨_, _, _, _, held, ⟨⟩, phase, _, present, said, written, target, context⟩
  · exact absurd ours (other id caller snapshot next rfl persisting)
  · cases persisting.symm.trans phase
    cases found.symm.trans present
    obtain ⟨row, first⟩ := final_present found
    obtain ⟨stored', before, replayed⟩ :=
      serialized.applied older ((List.suffix_cons ..).trans within) row first
    obtain ⟨stored'', after, grown⟩ := serialized.applied (.persist id :: older) within row first
    cases found.symm.trans before
    cases written.symm.trans after
    -- The replay of the longer past takes the stored row to the persisted one.
    change replay advance row.position (accepted orderId
      (Run.observe step (final table older) (.persist id) :: history table older)) = _ at grown
    rw [accepted_cons, Run.observe, said] at grown
    simp only [Option.bind_some, Effect.acceptedFor, if_true, Option.toList_some, List.cons_append,
      List.nil_append, replay, replayed] at grown
    obtain ⟨allowed, agree⟩ := advance_eq_some.mp grown
    exact ⟨allowed.trans target.symm, agree.trans context.symm⟩

/-- The transitions of an order are serialized exactly if every one that is persisted still applies
to the row it replaces as it did to the row it was read from. -/
theorem serialized_iff (table : Workflows) (orderId : String) (inputs : List Input) :
    Serialized table orderId inputs ↔
      ∀ receipt ∈ history table inputs, Current orderId receipt := by
  constructor
  · intro serialized receipt member
    exact serialized.current member
  · intro current
    constructor
    case succeeds =>
      intro receipt member event row said
      exact current_succeeds current member said
    case applied =>
      intro older within row first
      refine current_applied ?_ row first
      intro receipt member
      obtain ⟨input, oldest, suffix, same⟩ := (Run.mem_history step _).mp member
      exact current _ ((Run.mem_history step _).mpr ⟨input, oldest, suffix.trans within, same⟩)
    case stays =>
      intro older newer before within row found terminal
      exact current_final current before within found terminal

def sampleContext : PurchaseContext where
  orderId := "order"
  userId := "user"
  delegationId := "delegation"
  query := "shoes"
  products := []
  selectedProductId := none
  escrowId := none
  escrowTxHash := none
  merchantOrderId := none
  settlementTxHash := none
  error := none
  createdAt := 0

def overtakenApproval : List Input :=
  [ .call 0 (.transitionWorkflow "order" (.approve "p1")), .call 1 (.handleTimeout "order"),
    .load 0 10, .load 1 11, .persist 1, .persist 0 ].reverse

theorem overtaken_approval_not_serialized :
    ¬ Serialized (fun _ => some ⟨.found, sampleContext, 0⟩) "order" overtakenApproval := by
  intro serialized
  have cancelled : (final (fun _ => some ⟨.found, sampleContext, 0⟩) (overtakenApproval.drop 1)).table
      "order" = some ⟨.cancelled, sampleContext.updated (.cancel "checkout_timeout"), 11⟩ := by
    decide
  have kept := serialized.stays (overtakenApproval.drop 1) overtakenApproval (List.drop_suffix ..)
    List.suffix_rfl _ cancelled rfl
  revert kept
  decide

end Delego.Purchase
