import Delego.Purchase.Reconcile
import Delego.Purchase.Restore

set_option autoImplicit false

namespace Delego.Purchase

open Shared Shared.Replay

inductive ServiceInput where
  | createWorkflow (orderId userId delegationId query : String) (now : Nat)
  | transition (input : Input)

def serve (system : System) : ServiceInput → Option Effect × System
  | .createWorkflow orderId userId delegationId query now =>
    (none, { system with
      table := persistWorkflow system.table (createWorkflow orderId userId delegationId query now) })
  | .transition input => step system input

abbrev ServiceReceipt := Receipt System ServiceInput (Option Effect)

def served (inputs : List ServiceInput) : System := Run.final serve (start fun _ => none) inputs

def servedHistory (inputs : List ServiceInput) : List ServiceReceipt :=
  Run.history serve (start fun _ => none) inputs

def getWorkflow (table : Workflows) (orderId : String) : Except String WorkflowSnapshot :=
  match loadWorkflow table orderId with
  | none => .error ("Workflow not found: " ++ orderId)
  | some snapshot => .ok snapshot

-- `WHERE context->>'userId' = $1 [AND state = $2] ORDER BY updated_at DESC`
def listWorkflows (workflows : PurchaseWorkflows) (userId : String) (status : Option PurchaseState) :
    List WorkflowSnapshot :=
  ((workflows.orderIds.filterMap (loadWorkflow workflows.table)).filter fun row =>
    row.context.userId = userId && status.all (row.state = ·)).mergeSort
      fun row other => other.updatedAt ≤ row.updatedAt

def persistedEvents (orderId : String) (past : List ServiceReceipt) : List PurchaseEvent :=
  past.filterMap fun receipt => receipt.output.bind (Effect.acceptedFor orderId)

/-- What transitions make of a new order, when they are taken in the order in which they were
persisted, none of them more than once, though some may be left out. -/
def Descends (orderId : String) (past : List ServiceReceipt) (position : Position) : Prop :=
  ∃ later receipt earlier userId delegationId query now events,
    past = later ++ receipt :: earlier ∧
    receipt.input = .createWorkflow orderId userId delegationId query now ∧
    events.Sublist (persistedEvents orderId later) ∧
    replay advance (createWorkflow orderId userId delegationId query now).toRow.position events =
      some position

section Lineage

variable {orderId : String} {past : List ServiceReceipt} {position next : Position}
  {receipt : ServiceReceipt} {system : System} {inputs : List ServiceInput}

theorem persistedEvents_cons (receipt : ServiceReceipt) (past : List ServiceReceipt) :
    persistedEvents orderId (receipt :: past) =
      (receipt.output.bind (Effect.acceptedFor orderId)).toList ++ persistedEvents orderId past := by
  cases event : receipt.output.bind (Effect.acceptedFor orderId) with
  | none => simp [persistedEvents, event]
  | some event' => simp [persistedEvents, event]

theorem Descends.cons (descends : Descends orderId past position) (receipt : ServiceReceipt) :
    Descends orderId (receipt :: past) position := by
  obtain ⟨later, created, earlier, userId, delegationId, query, now, events, rfl, asked, among,
    replayed⟩ := descends
  refine ⟨receipt :: later, created, earlier, userId, delegationId, query, now, events, rfl, asked, ?_,
    replayed⟩
  rw [persistedEvents_cons]
  exact among.trans (List.sublist_append_right ..)

theorem Descends.advance {event : PurchaseEvent} {row : WorkflowRow}
    (descends : Descends orderId past position)
    (told : receipt.output = some (.persisted orderId event row))
    (accepted : Purchase.advance position event = some next) :
    Descends orderId (receipt :: past) next := by
  obtain ⟨later, created, earlier, userId, delegationId, query, now, events, rfl, asked, among,
    replayed⟩ := descends
  refine ⟨receipt :: later, created, earlier, userId, delegationId, query, now, event :: events, rfl,
    asked, ?_, replay_step replayed accepted⟩
  rw [persistedEvents_cons, told]
  simp only [Option.bind_some, Effect.acceptedFor, if_true, Option.toList_some, List.cons_append,
    List.nil_append]
  exact among.cons_cons event

theorem descends_created {userId delegationId query : String} {now : Nat}
    (asked : receipt.input = .createWorkflow orderId userId delegationId query now) :
    Descends orderId (receipt :: past)
      (createWorkflow orderId userId delegationId query now).toRow.position :=
  ⟨[], receipt, past, userId, delegationId, query, now, [], rfl, asked, List.Sublist.refl _, rfl⟩

-- What a call has read with the row it is about to write, what it has written, what it answers.
def PhaseDescends (past : List ServiceReceipt) : CallPhase → Prop
  | .persisting caller snapshot next => next.orderId = caller.orderId ∧
      Descends caller.orderId past snapshot.toRow.position ∧
      Purchase.advance snapshot.toRow.position caller.event = some next.toRow.position
  | .publishing _ _ next => Descends next.orderId past next.toRow.position
  | .returned (.ok (some next)) => Descends next.orderId past next.toRow.position
  | .idle | .loading _ | .returned (.ok none) | .returned (.error _) => True

/-- Every row, and every row that a call holds, descends from the creation of its order. -/
structure Lineage (past : List ServiceReceipt) (system : System) : Prop where
  rows : ∀ orderId row, system.table orderId = some row → Descends orderId past row.position
  calls : ∀ id, PhaseDescends past (system.calls id)

theorem PhaseDescends.cons {phase : CallPhase} (descends : PhaseDescends past phase)
    (receipt : ServiceReceipt) : PhaseDescends (receipt :: past) phase := by
  cases phase with
  | persisting caller snapshot next => exact ⟨descends.1, descends.2.1.cons receipt, descends.2.2⟩
  | publishing caller previousState next => exact Descends.cons descends receipt
  | returned result =>
    match result with
    | .ok (some next) => exact Descends.cons descends receipt
    | .ok none | .error _ => trivial
  | idle | loading => trivial

theorem answer_error_descends (caller : Caller) (message : String) :
    PhaseDescends past (.returned (caller.answer (.error message))) := by
  cases caller with
  | transitionWorkflow orderId event => trivial
  | handleTimeout orderId =>
    unfold Caller.answer
    dsimp only
    split
    · trivial
    · trivial

theorem answer_ok_descends (caller : Caller) {next : WorkflowSnapshot}
    (descends : Descends next.orderId past next.toRow.position) :
    PhaseDescends past (.returned (caller.answer (.ok next))) := by
  cases caller with
  | transitionWorkflow orderId event => exact descends
  | handleTimeout orderId => trivial

theorem Lineage.cons (lineage : Lineage past system) (receipt : ServiceReceipt) :
    Lineage (receipt :: past) system where
  rows orderId row found := (lineage.rows orderId row found).cons receipt
  calls id := (lineage.calls id).cons receipt

theorem Lineage.withCall {id : Nat} {phase : CallPhase} (lineage : Lineage past system)
    (descends : PhaseDescends past phase) : Lineage past (system.withCall id phase) where
  rows := lineage.rows
  calls other := by
    by_cases same : other = id
    · simpa [System.withCall, same] using descends
    · simpa [System.withCall, same] using lineage.calls other

theorem Lineage.validate (lineage : Lineage past system) (caller : Caller) (now : Nat) :
    PhaseDescends past (validate system.table caller now) := by
  cases found : system.table caller.orderId with
  | none =>
    simp only [Purchase.validate, loadWorkflow, found, Option.map_none]
    exact answer_error_descends caller _
  | some row =>
    have descends := lineage.rows _ row found
    cases target : transitions row.state caller.event.type with
    | none =>
      simp only [Purchase.validate, loadWorkflow, found, Option.map_some, applyEvent, target]
      exact answer_error_descends caller _
    | some state =>
      simp only [Purchase.validate, loadWorkflow, found, Option.map_some, applyEvent, target]
      exact ⟨rfl, descends, advance_eq_some.mpr ⟨target, rfl⟩⟩

theorem Lineage.persisted {caller : Caller} {snapshot next : WorkflowSnapshot} {id : Nat}
    (lineage : Lineage past system) (persisting : system.calls id = .persisting caller snapshot next)
    (told : receipt.output = some (.persisted next.orderId caller.event next.toRow)) :
    Descends next.orderId (receipt :: past) next.toRow.position := by
  have before := lineage.calls id
  rw [persisting] at before
  obtain ⟨named, descends, accepted⟩ := before
  rw [← named] at descends
  exact descends.advance told accepted

theorem Lineage.persist {caller : Caller} {snapshot next : WorkflowSnapshot}
    {id : Nat} (lineage : Lineage past system)
    (persisting : system.calls id = .persisting caller snapshot next)
    (told : receipt.output = some (.persisted next.orderId caller.event next.toRow)) :
    Lineage (receipt :: past)
      { system.withCall id (.publishing caller snapshot.state next) with
        table := persistWorkflow system.table next } where
  rows orderId row found := by
    by_cases same : orderId = next.orderId
    · subst same
      have written : next.toRow = row := by simpa [persistWorkflow, WorkflowSnapshot.toRow] using found
      rw [← written]
      exact lineage.persisted persisting told
    · have found : system.table orderId = some row := by simpa [persistWorkflow, same] using found
      exact (lineage.rows orderId row found).cons receipt
  calls other := by
    by_cases same : other = id
    · simpa [System.withCall, same, PhaseDescends] using lineage.persisted persisting told
    · simpa [System.withCall, same] using (lineage.calls other).cons receipt

theorem step_lineage (lineage : Lineage past system) (input : Input) (receipt : ServiceReceipt)
    (told : receipt.output = (step system input).1) :
    Lineage (receipt :: past) (step system input).2 := by
  cases input with
  | call id caller =>
    cases phase : system.calls id with
    | idle =>
      simp only [step, phase]
      refine (lineage.withCall ?_).cons receipt
      trivial
    | loading | persisting | publishing | returned =>
      simp only [step, phase]
      exact lineage.cons receipt
  | load id now =>
    cases phase : system.calls id with
    | loading caller =>
      simp only [step, phase]
      exact (lineage.withCall (lineage.validate caller now)).cons receipt
    | idle | persisting | publishing | returned =>
      simp only [step, phase]
      exact lineage.cons receipt
  | persist id =>
    cases phase : system.calls id with
    | persisting caller snapshot next =>
      simp only [step, phase] at told ⊢
      exact lineage.persist phase told
    | idle | loading | publishing | returned =>
      simp only [step, phase]
      exact lineage.cons receipt
  | publish id delivered =>
    cases phase : system.calls id with
    | publishing caller previousState next =>
      have descends := lineage.calls id
      rw [phase] at descends
      simp only [step, phase]
      exact (lineage.withCall (answer_ok_descends caller descends)).cons receipt
    | idle | loading | persisting | returned =>
      simp only [step, phase]
      exact lineage.cons receipt
  | reject id message =>
    cases phase : system.calls id with
    | loading | persisting | publishing =>
      simp only [step, phase]
      exact (lineage.withCall (answer_error_descends _ message)).cons receipt
    | idle | returned =>
      simp only [step, phase]
      exact lineage.cons receipt

theorem create_lineage (lineage : Lineage past system) (named userId delegationId query : String)
    (now : Nat) (receipt : ServiceReceipt)
    (asked : receipt.input = .createWorkflow named userId delegationId query now) :
    Lineage (receipt :: past)
      { system with
        table := persistWorkflow system.table (createWorkflow named userId delegationId query now) } where
  rows orderId row found := by
    by_cases same : orderId = named
    · subst same
      have written : (createWorkflow orderId userId delegationId query now).toRow = row := by
        simpa [persistWorkflow, createWorkflow, WorkflowSnapshot.toRow] using found
      rw [← written]
      exact descends_created asked
    · have found : system.table orderId = some row := by
        simpa [persistWorkflow, createWorkflow, same] using found
      exact (lineage.rows orderId row found).cons receipt
  calls id := (lineage.calls id).cons receipt

theorem served_lineage (inputs : List ServiceInput) :
    Lineage (servedHistory inputs) (served inputs) := by
  refine Run.invariant serve _ Lineage ?_ ?_ inputs
  · exact ⟨fun _ _ found => (nomatch found), fun _ => trivial⟩
  · intro past system input lineage
    cases input with
    | createWorkflow orderId userId delegationId query now =>
      exact create_lineage lineage orderId userId delegationId query now _ rfl
    | transition input => exact step_lineage lineage input _ rfl

/-- However the calls overlap, a row is what some of the transitions that were persisted since its
order was created make of the new order, each of them legal where it comes. -/
theorem workflow_row_descends (inputs : List ServiceInput) (orderId : String) (row : WorkflowRow)
    (found : (served inputs).table orderId = some row) :
    Descends orderId (servedHistory inputs) row.position :=
  (served_lineage inputs).rows orderId row found

def overlappingSearch : List ServiceInput :=
  [ .createWorkflow "order" "user" "delegation" "shoes" 0,
    .transition (.call 0 (.transitionWorkflow "order" (.search "boots" "delegation"))),
    .transition (.call 1 (.transitionWorkflow "order" (.cancel "changed my mind"))),
    .transition (.load 0 10), .transition (.load 1 11),
    .transition (.persist 0), .transition (.persist 1) ].reverse

theorem workflow_row_descends_overlapping :
    ∃ row, (served overlappingSearch).table "order" = some row ∧ row.state = .cancelled ∧
      Descends "order" (servedHistory overlappingSearch) row.position := by
  have found : (served overlappingSearch).table "order" =
      some ⟨.cancelled, { sampleContext with error := some "changed my mind" }, 11⟩ := by decide
  exact ⟨_, found, rfl, workflow_row_descends overlappingSearch "order" _ found⟩

end Lineage

section Consistency

def PurchaseState.progress : PurchaseState → Option Nat
  | .initiated => some 0
  | .searching => some 1
  | .found => some 2
  | .approved => some 3
  | .escrowFunded => some 4
  | .purchased => some 5
  | .delivering => some 6
  | .delivered => some 7
  | .completed => some 8
  | .cancelled | .failed => none

def PurchaseState.reached (state milestone : PurchaseState) : Bool :=
  match state.progress, milestone.progress with
  | some passed, some needed => needed ≤ passed
  | _, _ => false

/-- The context says what the state says: as long as a purchase goes well, each field is set exactly
from the state on whose event sets it. -/
structure Consistent (position : Position) : Prop where
  funding : position.2.escrowId.isSome = position.2.escrowTxHash.isSome
  settled : position.2.settlementTxHash.isSome = position.1.reached .delivered
  underway : position.1.progress ≠ none →
    position.2.selectedProductId.isSome = position.1.reached .approved ∧
      position.2.escrowId.isSome = position.1.reached .escrowFunded ∧
      position.2.merchantOrderId.isSome = position.1.reached .purchased ∧
      position.2.error = none
  stopped : position.1.progress = none →
    (position.2.merchantOrderId.isSome → position.2.escrowId.isSome) ∧
      (position.2.escrowId.isSome → position.2.selectedProductId.isSome) ∧
      (position.1 = .failed → position.2.error.isSome)

variable {position next : Position} {event : PurchaseEvent}

theorem consistent_created (orderId userId delegationId query : String) (now : Nat) :
    Consistent (createWorkflow orderId userId delegationId query now).toRow.position := by
  constructor <;> simp [createWorkflow, WorkflowSnapshot.toRow, WorkflowRow.position,
    PurchaseState.progress, PurchaseState.reached]

theorem Consistent.advance (consistent : Consistent position)
    (accepted : Purchase.advance position event = some next) : Consistent next := by
  obtain ⟨target, updated⟩ := advance_eq_some.mp accepted
  obtain ⟨state, context⟩ := position
  obtain ⟨state', context'⟩ := next
  obtain ⟨funding, settled, underway, stopped⟩ := consistent
  dsimp only at *
  subst updated
  -- One case for each entry of the table.
  cases event <;> cases state <;> cases target
  all_goals constructor <;> simp_all [PurchaseState.progress, PurchaseState.reached, PurchaseContext.updated]

theorem advance_origin (accepted : Purchase.advance position event = some next) :
    next.2.orderId = position.2.orderId ∧ next.2.userId = position.2.userId ∧
      next.2.createdAt = position.2.createdAt := by
  obtain ⟨_, updated⟩ := advance_eq_some.mp accepted
  rw [← updated]
  cases event <;> exact ⟨rfl, rfl, rfl⟩

theorem replay_consistent {orderId userId delegationId query : String} {now : Nat}
    {events : List PurchaseEvent}
    (replayed : replay Purchase.advance
      (createWorkflow orderId userId delegationId query now).toRow.position events = some position) :
    Consistent position ∧ position.2.orderId = orderId ∧ position.2.userId = userId ∧
      position.2.createdAt = now := by
  induction events generalizing position with
  | nil =>
    cases replayed
    exact ⟨consistent_created orderId userId delegationId query now, rfl, rfl, rfl⟩
  | cons event earlier ih =>
    obtain ⟨before, reached, accepted⟩ := Option.bind_eq_some_iff.mp replayed
    obtain ⟨consistent, named, owned, dated⟩ := ih reached
    obtain ⟨sameOrder, sameUser, sameDate⟩ := advance_origin accepted
    exact ⟨consistent.advance accepted, sameOrder.trans named, sameUser.trans owned,
      sameDate.trans dated⟩

/-- A snapshot that says what its state says, of an order that its user has created. -/
structure WorkflowSnapshot.Sound (inputs : List ServiceInput) (snapshot : WorkflowSnapshot) : Prop where
  consistent : Consistent (snapshot.state, snapshot.context)
  named : snapshot.context.orderId = snapshot.orderId
  created : ∃ delegationId query, .createWorkflow snapshot.orderId snapshot.context.userId delegationId
    query snapshot.context.createdAt ∈ inputs

theorem Descends.sound {inputs : List ServiceInput} {snapshot : WorkflowSnapshot}
    (descends : Descends snapshot.orderId (servedHistory inputs) snapshot.toRow.position) :
    snapshot.Sound inputs := by
  obtain ⟨later, receipt, earlier, userId, delegationId, query, now, events, cut, asked, _, replayed⟩ :=
    descends
  obtain ⟨consistent, named, owned, dated⟩ := replay_consistent replayed
  refine ⟨consistent, named, delegationId, query, ?_⟩
  change snapshot.context.userId = userId at owned
  change snapshot.context.createdAt = now at dated
  rw [owned, dated, ← asked, ← Run.history_input serve (start fun _ => none) inputs]
  apply List.mem_map_of_mem
  change receipt ∈ servedHistory inputs
  rw [cut]
  simp

theorem getWorkflow_ok {table : Workflows} {orderId : String} {snapshot : WorkflowSnapshot} :
    getWorkflow table orderId = .ok snapshot ↔
      snapshot.orderId = orderId ∧ table orderId = some snapshot.toRow := by
  unfold getWorkflow loadWorkflow
  cases found : table orderId with
  | none => simp
  | some row =>
    simp only [Option.map_some, Except.ok.injEq, Option.some.injEq]
    constructor
    · intro same
      subst same
      exact ⟨rfl, rfl⟩
    · intro both
      obtain ⟨named, same⟩ := both
      subst same
      rw [← named]
      rfl

theorem mem_listWorkflows {workflows : PurchaseWorkflows} {userId : String}
    {status : Option PurchaseState} {snapshot : WorkflowSnapshot} :
    snapshot ∈ listWorkflows workflows userId status ↔
      getWorkflow workflows.table snapshot.orderId = .ok snapshot ∧ snapshot.context.userId = userId ∧
        ∀ state ∈ status, snapshot.state = state := by
  simp only [listWorkflows, List.mem_mergeSort, List.mem_filter, List.mem_filterMap, Bool.and_eq_true,
    decide_eq_true_eq, Option.all_eq_true, getWorkflow_ok, true_and]
  constructor
  · intro found
    obtain ⟨⟨orderId, _, loaded⟩, owned, matching⟩ := found
    obtain ⟨row, held, same⟩ := Option.map_eq_some_iff.mp loaded
    subst same
    exact ⟨held, owned, matching⟩
  · intro found
    obtain ⟨held, owned, matching⟩ := found
    refine ⟨⟨snapshot.orderId, (workflows.listed _).mpr ?_, ?_⟩, owned, matching⟩
    · simp [held]
    · simp [loadWorkflow, held, WorkflowSnapshot.toRow]

theorem getWorkflow_sound {inputs : List ServiceInput} {orderId : String} {snapshot : WorkflowSnapshot}
    (answered : getWorkflow (served inputs).table orderId = .ok snapshot) : snapshot.Sound inputs := by
  obtain ⟨named, found⟩ := getWorkflow_ok.mp answered
  rw [← named] at found
  exact ((served_lineage inputs).rows _ _ found).sound

/-- Every snapshot that a caller is given, by a transition of its own or by a reader, is sound. -/
theorem answered_snapshots_sound (inputs : List ServiceInput) :
    (∀ id snapshot, (served inputs).calls id = .returned (.ok (some snapshot)) → snapshot.Sound inputs) ∧
    (∀ orderId snapshot, getWorkflow (served inputs).table orderId = .ok snapshot →
      snapshot.orderId = orderId ∧ snapshot.Sound inputs) ∧
    ∀ workflows : PurchaseWorkflows, workflows.table = (served inputs).table →
      ∀ userId status snapshot, snapshot ∈ listWorkflows workflows userId status ↔
        getWorkflow (served inputs).table snapshot.orderId = .ok snapshot ∧
          snapshot.context.userId = userId ∧ ∀ state ∈ status, snapshot.state = state := by
  refine ⟨?_, ?_, ?_⟩
  · intro id snapshot returned
    have descends := (served_lineage inputs).calls id
    rw [returned] at descends
    exact Descends.sound descends
  · intro orderId snapshot answered
    exact ⟨(getWorkflow_ok.mp answered).1, getWorkflow_sound answered⟩
  · intro workflows same userId status snapshot
    rw [← same]
    exact mem_listWorkflows

end Consistency

end Delego.Purchase
