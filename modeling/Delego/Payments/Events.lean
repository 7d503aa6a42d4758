import Delego.Shared.Json
import Delego.Shared.Run
import Mathlib.Logic.Function.Basic

set_option autoImplicit false

namespace Delego.Payments.Events

open Shared

structure ProcessedContractEventRecord where
  eventId : String
  contractId : String
  processedAt : Nat
  deriving DecidableEq

structure EscrowContractEvent where
  txHash : String
  eventIndex : Int
  contractId : String
  type : String
  payload : List (String × Json)

structure PaymentEvent where
  type : String
  orderId : String
  payload : List (String × Json)
  occurredAt : Nat

def deriveContractEventId (txHash : String) (eventIndex : Int) : String :=
  txHash ++ ":" ++ toString eventIndex

def EscrowContractEvent.id (event : EscrowContractEvent) : String :=
  deriveContractEventId event.txHash event.eventIndex

abbrev ProcessedContractEventStore := String → Option ProcessedContractEventRecord

def markProcessed (store : ProcessedContractEventStore) (event : EscrowContractEvent) (now : Nat) :
    ProcessedContractEventStore :=
  Function.update store event.id (some ⟨event.id, event.contractId, now⟩)

def paymentEvent (text : Json → String) (event : EscrowContractEvent) (now : Nat) : PaymentEvent where
  type := event.type
  orderId := match event.payload.lookup "orderId" with
    | none | some .null => text (.string "")
    | some orderId => text orderId
  payload := event.payload
  occurredAt := now

/-- What a delivery waits for: the store's `has`, the handler, or the store's `markProcessed`. -/
inductive Delivery where
  | checking (event : EscrowContractEvent)
  | handling (event : EscrowContractEvent)
  | marking (event : EscrowContractEvent)
  | returned (processed : Except String Bool)

structure System where
  processed : ProcessedContractEventStore
  deliveries : List Delivery

inductive Input where
  | deliver (event : EscrowContractEvent)
  | answer (id now : Nat)
  | reject (id now : Nat) (message : String) (effective : Bool)

inductive Effect where
  | called (event : PaymentEvent)
  | handled (event : EscrowContractEvent)

/-- The steps of `handleEscrowContractEvent`: an awaited operation is carried out and answered, or it
fails, perhaps after it has had its effect. -/
def step (text : Json → String) (system : System) : Input → Option Effect × System
  | .deliver event => (none, { system with deliveries := system.deliveries ++ [.checking event] })
  | .answer id now =>
    match system.deliveries[id]? with
    | some (.checking event) =>
      match system.processed event.id with
      | some _ => (none, { system with deliveries := system.deliveries.set id (.returned (.ok false)) })
      | none =>
        (some (.called (paymentEvent text event now)),
          { system with deliveries := system.deliveries.set id (.handling event) })
    | some (.handling event) =>
      (some (.handled event), { system with deliveries := system.deliveries.set id (.marking event) })
    | some (.marking event) =>
      (none, ⟨markProcessed system.processed event now,
        system.deliveries.set id (.returned (.ok true))⟩)
    | some (.returned _) | none => (none, system)
  | .reject id now message effective =>
    match system.deliveries[id]? with
    | some (.marking event) =>
      (none,
        { processed := if effective then markProcessed system.processed event now else system.processed
          deliveries := system.deliveries.set id (.returned (.error message)) })
    | some (.checking _) | some (.handling _) =>
      (none, { system with deliveries := system.deliveries.set id (.returned (.error message)) })
    | some (.returned _) | none => (none, system)

abbrev EventReceipt := Receipt System Input (Option Effect)

variable (text : Json → String)

def final (inputs : List Input) : System := Run.final (step text) ⟨fun _ => none, []⟩ inputs

def history (inputs : List Input) : List EventReceipt :=
  Run.history (step text) ⟨fun _ => none, []⟩ inputs

def Effect.handles (txHash : String) (eventIndex : Int) : Option Effect → Bool
  | some (.handled event) => event.txHash = txHash && event.eventIndex = eventIndex
  | _ => false

def completions (txHash : String) (eventIndex : Int) (past : List EventReceipt) : List EventReceipt :=
  past.filter fun receipt => Effect.handles txHash eventIndex receipt.output

def HandledOnce (inputs : List Input) : Prop :=
  ∀ txHash eventIndex, (completions txHash eventIndex (history text inputs)).length ≤ 1

def Delivery.isHandling (eventId : String) : Delivery → Prop
  | .handling event => event.id = eventId
  | _ => False

def Delivery.isMarking (eventId : String) : Delivery → Prop
  | .marking event => event.id = eventId
  | _ => False

/-- A delivery does not pass its check while another has handled the event and not marked it, no two
deliveries of one event are with the handler when it completes for one of them, and a mark that fails
has been made. -/
def Apart (system : System) : Input → Prop
  | .deliver _ => True
  | .answer id _ =>
    match system.deliveries[id]? with
    | some (.checking event) =>
      system.processed event.id = none → ∀ delivery ∈ system.deliveries, ¬ delivery.isMarking event.id
    | some (.handling event) =>
      ∀ other delivery, other ≠ id → system.deliveries[other]? = some delivery →
        ¬ delivery.isHandling event.id
    | _ => True
  | .reject id _ _ effective =>
    match system.deliveries[id]? with
    | some (.marking _) => effective = true
    | _ => True

def RunApart (inputs : List Input) : Prop :=
  ∀ input older, input :: older <:+ inputs → Apart (final text older) input

section Once

variable {text} {system : System} {past : List EventReceipt} {eventId : String}

def Effect.handlesId (eventId : String) : Option Effect → Bool
  | some (.handled event) => event.id = eventId
  | _ => false

def completed (eventId : String) (past : List EventReceipt) : Nat :=
  (past.filter fun receipt => Effect.handlesId eventId receipt.output).length

structure Settled (eventId : String) (past : List EventReceipt) (system : System) : Prop where
  once : completed eventId past ≤ 1
  marked : completed eventId past ≠ 0 → system.processed eventId = none →
    ∃ delivery ∈ system.deliveries, delivery.isMarking eventId
  alone : completed eventId past ≠ 0 → ∀ delivery ∈ system.deliveries, ¬ delivery.isHandling eventId

theorem completions_le (txHash : String) (eventIndex : Int) (past : List EventReceipt) :
    (completions txHash eventIndex past).length ≤
      completed (deriveContractEventId txHash eventIndex) past := by
  refine (List.monotone_filter_right past ?_).length_le
  intro receipt handled
  cases told : receipt.output with
  | none => simp [told, Effect.handles] at handled
  | some effect =>
    cases effect with
    | called event => simp [told, Effect.handles] at handled
    | handled event =>
      simp only [told, Effect.handles, Bool.and_eq_true, decide_eq_true_eq] at handled
      obtain ⟨rfl, rfl⟩ := handled
      exact decide_eq_true rfl

theorem markProcessed_kept {store : ProcessedContractEventStore} {event : EscrowContractEvent} {now : Nat}
    (missing : markProcessed store event now eventId = none) :
    store eventId = none ∧ event.id ≠ eventId := by
  by_cases same : eventId = event.id
  · subst same
    simp [markProcessed] at missing
  · rw [markProcessed, Function.update_of_ne same] at missing
    exact ⟨missing, Ne.symm same⟩

theorem Settled.moved {id : Nat} {before delivery : Delivery} {store : ProcessedContractEventStore}
    {receipt : EventReceipt} (settled : Settled eventId past system)
    (found : system.deliveries[id]? = some before)
    (quiet : Effect.handlesId eventId receipt.output = false)
    (kept : store eventId = none → system.processed eventId = none ∧ ¬ before.isMarking eventId)
    (alone : delivery.isHandling eventId → completed eventId past = 0) :
    Settled eventId (receipt :: past) ⟨store, system.deliveries.set id delivery⟩ := by
  have count : completed eventId (receipt :: past) = completed eventId past := by
    simp [completed, quiet]
  refine ⟨count ▸ settled.once, ?_, ?_⟩
  · intro handled missing
    obtain ⟨missing, unmarked⟩ := kept missing
    obtain ⟨marking, member, marks⟩ := settled.marked (count ▸ handled) missing
    obtain ⟨index, inside, rfl⟩ := List.mem_iff_getElem.mp member
    have other : id ≠ index := by
      rintro rfl
      rw [List.getElem?_eq_getElem inside] at found
      cases found
      exact unmarked marks
    have still : (system.deliveries.set id delivery)[index]? = some system.deliveries[index] := by
      rw [List.getElem?_set_ne other, List.getElem?_eq_getElem inside]
    exact ⟨_, List.mem_of_getElem? still, marks⟩
  · intro handled other member handles
    rcases List.mem_or_eq_of_mem_set member with old | rfl
    · exact settled.alone (count ▸ handled) other old handles
    · exact handled (count ▸ alone handles)

theorem Settled.still {receipt : EventReceipt} (settled : Settled eventId past system)
    (quiet : Effect.handlesId eventId receipt.output = false) :
    Settled eventId (receipt :: past) system := by
  have count : completed eventId (receipt :: past) = completed eventId past := by
    simp [completed, quiet]
  exact ⟨count ▸ settled.once, count ▸ settled.marked, count ▸ settled.alone⟩

theorem Settled.delivered {receipt : EventReceipt} (settled : Settled eventId past system)
    (event : EscrowContractEvent) (quiet : Effect.handlesId eventId receipt.output = false) :
    Settled eventId (receipt :: past)
      { system with deliveries := system.deliveries ++ [.checking event] } := by
  obtain ⟨once, marked, alone⟩ := settled.still quiet
  refine ⟨once, ?_, ?_⟩
  · intro handled missing
    obtain ⟨marking, member, marks⟩ := marked handled missing
    exact ⟨marking, List.mem_append_left _ member, marks⟩
  · intro handled other member handles
    rcases List.mem_append.mp member with old | new
    · exact alone handled other old handles
    · rw [List.mem_singleton.mp new] at handles
      exact handles

theorem Settled.handled {id : Nat} {event : EscrowContractEvent} {receipt : EventReceipt}
    (settled : Settled eventId past system) (found : system.deliveries[id]? = some (.handling event))
    (output : receipt.output = some (.handled event))
    (alone : ∀ other delivery, other ≠ id → system.deliveries[other]? = some delivery →
      ¬ delivery.isHandling event.id) :
    Settled eventId (receipt :: past)
      { system with deliveries := system.deliveries.set id (.marking event) } := by
  by_cases same : event.id = eventId
  · subst same
    have unhandled : completed event.id past = 0 := by
      by_contra handled
      exact settled.alone handled _ (List.mem_of_getElem? found) rfl
    have count : completed event.id (receipt :: past) = 1 := by
      have handles : Effect.handlesId event.id receipt.output = true := by
        rw [output]
        exact decide_eq_true rfl
      have more : completed event.id (receipt :: past) = completed event.id past + 1 := by
        simp [completed, handles]
      rw [more, unhandled]
    have placed : (system.deliveries.set id (.marking event))[id]? = some (.marking event) := by
      rw [List.getElem?_set_self (List.getElem?_eq_some_iff.mp found).1]
    refine ⟨count.le, ?_, ?_⟩
    · intro _ _
      exact ⟨_, List.mem_of_getElem? placed, rfl⟩
    · intro _ other member handles
      obtain ⟨index, inside⟩ := List.mem_iff_getElem?.mp member
      by_cases here : index = id
      · subst here
        rw [placed] at inside
        cases inside
        exact handles
      · rw [List.getElem?_set_ne (Ne.symm here)] at inside
        exact alone index other here inside handles
  · have quiet : Effect.handlesId eventId receipt.output = false := by
      rw [output]
      exact decide_eq_false same
    exact settled.moved found quiet (fun missing => ⟨missing, nofun⟩) nofun

theorem step_settled (input : Input) (settled : ∀ eventId, Settled eventId past system)
    (apart : Apart system input) (eventId : String) :
    Settled eventId (Run.observe (step text) system input :: past) (step text system input).2 := by
  cases input with
  | deliver event => exact (settled eventId).delivered event rfl
  | answer id now =>
    simp only [Apart] at apart
    simp only [Run.observe, step]
    cases found : system.deliveries[id]? with
    | none => exact (settled eventId).still rfl
    | some delivery =>
      simp only [found] at apart
      cases delivery with
      | checking event =>
        dsimp only
        cases held : system.processed event.id with
        | some record =>
          exact (settled eventId).moved found rfl (fun missing => ⟨missing, not_false⟩) False.elim
        | none =>
          refine (settled eventId).moved found rfl (fun missing => ⟨missing, not_false⟩) ?_
          rintro rfl
          by_contra handled
          obtain ⟨marking, member, marks⟩ := (settled event.id).marked handled held
          exact apart held marking member marks
      | handling event => exact (settled eventId).handled found rfl apart
      | marking event =>
        exact (settled eventId).moved found rfl (fun missing => markProcessed_kept missing) False.elim
      | returned processed => exact (settled eventId).still rfl
  | reject id now message effective =>
    simp only [Apart] at apart
    simp only [Run.observe, step]
    cases found : system.deliveries[id]? with
    | none => exact (settled eventId).still rfl
    | some delivery =>
      simp only [found] at apart
      cases delivery with
      | checking event | handling event =>
        exact (settled eventId).moved found rfl (fun missing => ⟨missing, not_false⟩) False.elim
      | marking event =>
        subst apart
        exact (settled eventId).moved found rfl (fun missing => markProcessed_kept missing) False.elim
      | returned processed => exact (settled eventId).still rfl

theorem settled {inputs : List Input} (apart : RunApart text inputs) : ∀ older, older <:+ inputs →
    ∀ eventId, Settled eventId (history text older) (final text older) := by
  refine Run.along ?_ ?_
  · intro eventId
    exact ⟨Nat.zero_le _, fun handled => absurd rfl handled, fun handled => absurd rfl handled⟩
  · intro input older within settled eventId
    exact step_settled input settled (apart input older within) eventId

end Once

/-- When the deliveries of each event are kept apart, its handler completes once at most. -/
theorem escrow_event_handled_once (inputs : List Input) (apart : RunApart text inputs) :
    HandledOnce text inputs := by
  intro txHash eventIndex
  have settled := settled apart inputs List.suffix_rfl (deriveContractEventId txHash eventIndex)
  exact (completions_le txHash eventIndex _).trans settled.once

def delivered : EscrowContractEvent where
  txHash := "abc123"
  eventIndex := 0
  contractId := "contract-1"
  type := "escrow_created"
  payload := [("orderId", .string "ord-1")]

def sampleText : Json → String
  | .string value => value
  | _ => ""

def overlapping : List Input :=
  [.answer 1 0, .answer 1 0, .answer 0 0, .answer 1 0, .answer 0 0, .deliver delivered,
    .deliver delivered]

-- The first handler fails, the second completes, and a third delivery finds the event marked.
def redelivered : List Input :=
  [.answer 2 0, .deliver delivered, .answer 1 0, .answer 1 0, .reject 0 0 "timeout" false, .answer 1 0,
    .answer 0 0, .deliver delivered, .deliver delivered]

theorem escrow_event_handled_once_sample : HandledOnce sampleText redelivered := by
  refine escrow_event_handled_once sampleText redelivered ?_
  intro input older within
  simp only [redelivered, List.suffix_cons_iff, List.suffix_nil, List.cons.injEq, reduceCtorEq,
    or_false] at within
  rcases within with ⟨rfl, rfl⟩ | ⟨rfl, rfl⟩ | ⟨rfl, rfl⟩ | ⟨rfl, rfl⟩ | ⟨rfl, rfl⟩ | ⟨rfl, rfl⟩ |
    ⟨rfl, rfl⟩ | ⟨rfl, rfl⟩ | ⟨rfl, rfl⟩
  · intro missing
    cases missing
  · trivial
  · trivial
  · rintro (_ | _ | other) delivery different found
    · cases found
      exact id
    · exact absurd rfl different
    · cases found
  · trivial
  · rintro _ delivery (_ | ⟨_, _ | ⟨_, ⟨⟩⟩⟩)
    · exact id
    · exact id
  · rintro _ delivery (_ | ⟨_, _ | ⟨_, ⟨⟩⟩⟩)
    · exact id
    · exact id
  · trivial
  · trivial

/-- Two deliveries that overlap are both handled. -/
theorem overlapping_deliveries_handled_twice : ¬ HandledOnce sampleText overlapping := by
  intro once
  exact absurd (once "abc123" 0) (by decide +kernel)

end Delego.Payments.Events
