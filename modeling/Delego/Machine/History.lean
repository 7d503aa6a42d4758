import Delego.Machine.Snapshot
import Delego.Shared.Replay

set_option autoImplicit false

namespace Delego.Machine

open Shared Shared.Replay PurchaseWorkflowMachine

def PurchaseContext.timeless (context : PurchaseContext) : PurchaseContext :=
  { context with
    createdAt := 0
    updatedAt := 0 }

def StateTransitionRecord.timeless (record : StateTransitionRecord) : StateTransitionRecord :=
  { record with
    context := record.context.timeless
    timestamp := 0 }

def WorkflowSnapshot.timeless (snapshot : WorkflowSnapshot) : WorkflowSnapshot :=
  { snapshot with
    context := snapshot.context.timeless
    history := snapshot.history.map StateTransitionRecord.timeless }

def Chain (state : PurchaseState) : List StateTransitionRecord → PurchaseState → Prop
  | [], current => state = current
  | record :: later, current =>
    record.fromState = some state ∧ transitions state record.event = some record.toState ∧
      Chain record.toState later current

def Sending.Quiet (sending : Sending) : Prop := sending.hook = .ok ()

def acceptedEvents (machine : PurchaseWorkflowMachine) (sendings : List Sending) : List PurchaseEvent :=
  (history machine sendings).filterMap fun receipt =>
    if receipt.output.toBool then some receipt.input.event else none

/-- The recorded history of a run, newest sending first: it leads to the current state with one record
for each accepted event; the accepted events alone make the same of a new machine; and so does a machine
that was saved anywhere and restored, at whatever times it goes on. -/
structure Replays (stringify : Json → String) (initialContext : InitialContext) (now : Nat)
    (sendings : List Sending) : Prop where
  chained : Chain .discovery (final (new initialContext now) sendings).getSnapshot.history
    (final (new initialContext now) sendings).currentState
  recorded : (final (new initialContext now) sendings).getSnapshot.history.map
      StateTransitionRecord.event =
    ((acceptedEvents (new initialContext now) sendings).map PurchaseEvent.type).reverse
  replayed : ∀ now' resent,
    resent.map Sending.event = acceptedEvents (new initialContext now) sendings →
      (final (new initialContext now') resent).getSnapshot.timeless =
        (final (new initialContext now) sendings).getSnapshot.timeless
  resumed : ∀ later earlier continued, sendings = later ++ earlier →
    continued.map Sending.event = later.map Sending.event →
      ∃ machine, fromSnapshot stringify
          (final (new initialContext now) earlier).getSnapshot.toJson
          (final (new initialContext now) earlier).getSnapshot = .ok machine ∧
        (final machine continued).getSnapshot.timeless =
          (final (new initialContext now) sendings).getSnapshot.timeless

def advance (snapshot : WorkflowSnapshot) (event : PurchaseEvent) : Option WorkflowSnapshot :=
  (transitions snapshot.currentState event.type).map
    (PurchaseWorkflowMachine.moved ⟨snapshot⟩ ⟨event, 0, 0, .ok ()⟩)

section Simulation

variable {machine : PurchaseWorkflowMachine} {sending : Sending} {sendings : List Sending}

theorem applyContextUpdate_timeless (context : PurchaseContext) (event : PurchaseEvent) (now : Nat) :
    (applyContextUpdate context event now).timeless = applyContextUpdate context.timeless event 0 := by
  cases event <;> rfl

theorem moved_timeless (nextState : PurchaseState) : (machine.moved sending nextState).timeless =
    PurchaseWorkflowMachine.moved ⟨machine.snapshot.timeless⟩ ⟨sending.event, 0, 0, .ok ()⟩ nextState := by
  simp [moved, WorkflowSnapshot.timeless, StateTransitionRecord.timeless, applyContextUpdate_timeless]

theorem send_timeless (machine : PurchaseWorkflowMachine) (sending : Sending) :
    (machine.send sending).2.snapshot.timeless =
      (advance machine.snapshot.timeless sending.event).getD machine.snapshot.timeless := by
  have state : machine.snapshot.timeless.currentState = machine.currentState := rfl
  rcases send_cases machine sending with ⟨refused, message, sent⟩ | ⟨nextState, allowed, sent⟩
  · simp [sent, advance, state, refused]
  · simp [sent, advance, state, allowed, moved_timeless]

theorem send_accepted (machine : PurchaseWorkflowMachine) (quiet : sending.Quiet) :
    (machine.send sending).1.toBool = (advance machine.snapshot.timeless sending.event).isSome := by
  have state : machine.snapshot.timeless.currentState = machine.currentState := rfl
  rcases send_cases machine sending with ⟨refused, message, sent⟩ | ⟨nextState, allowed, sent⟩
  · simp [sent, advance, state, refused, Except.toBool]
  · rw [sent, quiet]
    simp [advance, state, allowed, Except.map, Except.toBool]

theorem final_timeless (machine : PurchaseWorkflowMachine) (sendings : List Sending) :
    (final machine sendings).snapshot.timeless =
      settle advance machine.snapshot.timeless (sendings.map Sending.event) := by
  induction sendings with
  | nil => rfl
  | cons sending earlier ih =>
    have sent := send_timeless (final machine earlier) sending
    rw [ih] at sent
    exact sent

theorem acceptedEvents_cons (machine : PurchaseWorkflowMachine) (sending : Sending)
    (earlier : List Sending) : acceptedEvents machine (sending :: earlier) =
      if ((final machine earlier).send sending).1.toBool then
        sending.event :: acceptedEvents machine earlier
      else acceptedEvents machine earlier := by
  cases told : ((final machine earlier).send sending).1.toBool with
  | true | false =>
    simp only [acceptedEvents, history, Run.history, Run.observe, final, List.filterMap_cons] at told ⊢
    simp [told]

theorem acceptedEvents_eq (quiet : ∀ sending ∈ sendings, sending.Quiet) :
    acceptedEvents machine sendings =
      accepted advance machine.snapshot.timeless (sendings.map Sending.event) := by
  induction sendings with
  | nil => rfl
  | cons sending earlier ih =>
    have tail := ih fun other member => quiet other (.tail _ member)
    have told := send_accepted (final machine earlier) (quiet sending (.head _))
    rw [final_timeless] at told
    rw [acceptedEvents_cons, told, tail, List.map_cons, accepted]
    cases advance (settle advance machine.snapshot.timeless (earlier.map Sending.event)) sending.event with
    | none => rfl
    | some snapshot => rfl

theorem accepted_timeless {resent : List Sending} (quiet : ∀ sending ∈ sendings, sending.Quiet)
    (other : PurchaseWorkflowMachine) (same : other.snapshot.timeless = machine.snapshot.timeless)
    (events : resent.map Sending.event = acceptedEvents machine sendings) :
    (final other resent).snapshot.timeless = (final machine sendings).snapshot.timeless := by
  rw [final_timeless, final_timeless, events, acceptedEvents_eq quiet, same]
  exact settle_of_replay (replay_accepted _)

theorem resumed_timeless {later earlier continued : List Sending}
    (events : continued.map Sending.event = later.map Sending.event) :
    (final (final machine earlier) continued).snapshot.timeless =
      (final machine (later ++ earlier)).snapshot.timeless := by
  rw [final_timeless, final_timeless, final_timeless, List.map_append, settle_append, events]

end Simulation

section Recorded

variable {initialContext : InitialContext} {now : Nat} {sendings : List Sending}

theorem Chain.snoc {first current : PurchaseState} {records : List StateTransitionRecord}
    {record : StateTransitionRecord} (chain : Chain first records current)
    (leaves : record.fromState = some current)
    (legal : transitions current record.event = some record.toState) :
    Chain first (records ++ [record]) record.toState := by
  induction records generalizing first with
  | nil =>
    subst chain
    exact ⟨leaves, legal, rfl⟩
  | cons earlier rest ih =>
    obtain ⟨start, step, chain⟩ := chain
    exact ⟨start, step, ih chain⟩

theorem final_chained (initialContext : InitialContext) (now : Nat) (sendings : List Sending) :
    Chain .discovery (final (new initialContext now) sendings).snapshot.history
      (final (new initialContext now) sendings).currentState := by
  induction sendings with
  | nil => rfl
  | cons sending earlier ih =>
    have kept : final (new initialContext now) (sending :: earlier) =
        ((final (new initialContext now) earlier).send sending).2 := rfl
    rw [kept]
    rcases send_cases (final (new initialContext now) earlier) sending with
      ⟨_, _, sent⟩ | ⟨nextState, allowed, sent⟩
    · simpa only [sent] using ih
    · rw [sent]
      exact ih.snoc rfl allowed

theorem final_recorded (quiet : ∀ sending ∈ sendings, sending.Quiet) :
    (final (new initialContext now) sendings).snapshot.history.map StateTransitionRecord.event =
      ((acceptedEvents (new initialContext now) sendings).map PurchaseEvent.type).reverse := by
  induction sendings with
  | nil => rfl
  | cons sending earlier ih =>
    have before := ih fun other member => quiet other (.tail _ member)
    have kept : final (new initialContext now) (sending :: earlier) =
        ((final (new initialContext now) earlier).send sending).2 := rfl
    rw [acceptedEvents_cons, kept]
    rcases send_cases (final (new initialContext now) earlier) sending with
      ⟨_, _, sent⟩ | ⟨nextState, _, sent⟩
    · simpa [sent, Except.toBool] using before
    · rw [sent, quiet sending (.head _)]
      simp [Except.map, Except.toBool, moved, before]

theorem final_restorable (named : initialContext.workflowId ≠ "") (delegated : initialContext.delegationId ≠ "")
    (owned : initialContext.userId ≠ "") :
    (final (new initialContext now) sendings).snapshot.Restorable := by
  induction sendings with
  | nil => exact ⟨named, ⟨named, delegated, owned⟩, rfl⟩
  | cons sending earlier ih =>
    have kept : final (new initialContext now) (sending :: earlier) =
        ((final (new initialContext now) earlier).send sending).2 := rfl
    rw [kept]
    rcases send_cases (final (new initialContext now) earlier) sending with
      ⟨_, _, sent⟩ | ⟨nextState, _, sent⟩
    · simpa only [sent] using ih
    · rw [sent]
      refine ⟨ih.workflowId, ?_, ih.version⟩
      have context := ih.context
      cases event : sending.event <;> simpa only [moved, event, applyContextUpdate] using context

end Recorded

/-- What a machine has recorded is what has happened to it, however often it is saved and restored. -/
theorem history_replays (stringify : Json → String) (initialContext : InitialContext) (now : Nat)
    (sendings : List Sending) (named : initialContext.workflowId ≠ "")
    (delegated : initialContext.delegationId ≠ "") (owned : initialContext.userId ≠ "")
    (quiet : ∀ sending ∈ sendings, sending.Quiet) :
    Replays stringify initialContext now sendings := by
  refine ⟨final_chained initialContext now sendings, final_recorded quiet, ?_, ?_⟩
  · intro now' resent events
    exact accepted_timeless quiet (new initialContext now') rfl events
  · rintro later earlier continued rfl events
    refine ⟨_, fromSnapshot_restorable stringify (final_restorable named delegated owned), ?_⟩
    exact resumed_timeless events

def purchased : List Sending :=
  [ ⟨.userApproved, 4, 4, .ok ()⟩, ⟨.spendApproved, 3, 3, .ok ()⟩, ⟨.deliveryVerified, 2, 2, .ok ()⟩,
    ⟨.productFound "product" "merchant" 10, 1, 1, .ok ()⟩ ]

theorem history_replays_purchased : Replays (fun _ => "") sampleInitial 0 purchased := by
  refine history_replays _ sampleInitial 0 purchased (by decide) (by decide) (by decide) ?_
  intro sending member
  simp only [purchased, List.mem_cons, List.not_mem_nil, or_false] at member
  rcases member with rfl | rfl | rfl | rfl <;> rfl

end Delego.Machine
