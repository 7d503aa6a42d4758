import Delego.Saga.Step

set_option autoImplicit false

namespace Delego.Saga

open Shared

variable {Context : Type}

structure SagaStep (Context : Type) where
  action : Context → Except String Context
  compensation : Context → String → Except String Context

def Phase.result (steps : String → SagaStep Context) : Phase Context → Option (Except String Context)
  | .working .advancing current stepName _ => some ((steps stepName).action current.context)
  | .working (.compensating error) current stepName _ =>
    some ((steps stepName).compensation current.context error)
  | _ => none

def Answers (steps : String → SagaStep Context) (system : System Context) : Input Context → Prop
  | .settle id outcome => ∀ result ∈ (system.runners id).phase.result steps, outcome = result
  | _ => True

structure Destination (Context : Type) where
  status : SagaStatus
  completedSteps : List String
  context : Context

def SagaRecord.position (record : SagaRecord Context) : Destination Context where
  status := record.status
  completedSteps := record.completedSteps
  context := record.context

def undo (steps : String → SagaStep Context) (error : String) :
    List String → Context → Destination Context
  | [], context => ⟨.failed, [], context⟩
  | stepName :: rest, context =>
    match (steps stepName).compensation context error with
    | .ok context => undo steps error rest context
    | .error _ => ⟨.compensating, (stepName :: rest).reverse, context⟩

def carryOut (steps : String → SagaStep Context) (completedSteps : List String) :
    List String → Context → Destination Context
  | [], context => ⟨.completed, completedSteps, context⟩
  | stepName :: rest, context =>
    match (steps stepName).action context with
    | .ok context => carryOut steps (completedSteps ++ [stepName]) rest context
    | .error message => undo steps message completedSteps.reverse context

def SagaRecord.failure (record : SagaRecord Context) : String := record.error.getD "Saga failed"

/-- Where a saga ends up that goes on from a record, as a function of the record alone. -/
def destination (definition : SagaDefinition) (steps : String → SagaStep Context)
    (record : SagaRecord Context) : Destination Context :=
  match record.status with
  | .running =>
    carryOut steps record.completedSteps
      (definition.stepOrder.filter fun name => name ∉ record.completedSteps) record.context
  | .compensating => undo steps record.failure record.completedSteps.reverse record.context
  | .completed | .failed => record.position

section Steps

variable {definition : SagaDefinition} {steps : String → SagaStep Context} {clock : Nat}
  {store : SagaStore Context} {record current draft : SagaRecord Context} {phase : Phase Context}
  {mode : Mode} {stepName error message : String} {rest remaining : List String} {next : Next}
  {context : Context} {now : Nat}

theorem destination_advancing (ahead : Ahead definition current remaining .advancing) :
    destination definition steps current =
      carryOut steps current.completedSteps remaining current.context := by
  obtain ⟨running, order⟩ := ahead
  have distinct := definition.distinct
  rw [← order] at distinct
  have filtered := filter_remaining distinct
  rw [order] at filtered
  rw [destination, running]
  simp only [filtered]

theorem destination_compensating (ahead : Ahead definition current remaining (.compensating error)) :
    destination definition steps current =
      undo steps current.failure remaining current.context := by
  obtain ⟨compensating, _, reversed⟩ := ahead
  rw [destination, compensating]
  simp only [reversed]

theorem destination_claimed {claimExpiresAt : Nat} :
    destination definition steps (current.claimed stepName claimExpiresAt now) =
      destination definition steps current := rfl

@[simp] theorem destination_bumped :
    destination definition steps record.bumped = destination definition steps record := rfl

theorem destination_acted (ahead : Ahead definition current (stepName :: rest) .advancing)
    (answer : (steps stepName).action current.context = .ok context) :
    destination definition steps (current.acted stepName context now) =
      destination definition steps current := by
  rw [← destination_bumped, destination_advancing ahead.acted, destination_advancing ahead, carryOut,
    answer]
  rfl

theorem destination_rejected (ahead : Ahead definition current (stepName :: rest) .advancing)
    (answer : (steps stepName).action current.context = .error message) :
    destination definition steps (current.rejected message now) =
      destination definition steps current := by
  rw [← destination_bumped, destination_compensating ahead.rejected, destination_advancing ahead,
    carryOut, answer]
  rfl

theorem destination_compensated
    (ahead : Ahead definition current (stepName :: rest) (.compensating error))
    (answer : (steps stepName).compensation current.context current.failure = .ok context) :
    destination definition steps (current.compensated stepName context now) =
      destination definition steps current := by
  rw [← destination_bumped, destination_compensating ahead.compensated,
    destination_compensating ahead, undo, answer]
  rfl

theorem destination_released : destination definition steps (current.released now) =
    destination definition steps current := rfl

theorem destination_completed (ahead : Ahead definition current [] .advancing) :
    destination definition steps (current.completed now) = destination definition steps current := by
  rw [destination_advancing ahead]
  rfl

theorem destination_failed (ahead : Ahead definition current [] (.compensating error)) :
    destination definition steps (current.failed now) = destination definition steps current := by
  have none : current.completedSteps = [] := List.reverse_eq_nil_iff.mp ahead.2.2
  rw [destination_compensating ahead]
  simp [destination, SagaRecord.failed, SagaRecord.position, none, undo]

theorem position_refused
    (ahead : Ahead definition current (stepName :: rest) (.compensating error))
    (answer : (steps stepName).compensation current.context current.failure = .error message) :
    destination definition steps current = current.position := by
  have completed : current.completedSteps = (stepName :: rest).reverse := by
    rw [← ahead.2.2, List.reverse_reverse]
  rw [destination_compensating ahead, undo, answer, SagaRecord.position, ahead.1, completed]

end Steps

-- The error a runner compensates for is the one its record tells.
def Mode.Fits (record : SagaRecord Context) : Mode → Prop
  | .advancing => True
  | .compensating error => record.failure = error

/-- What a save leads to, if the steps are functions: where the saga was going before it. -/
def Next.Fits (definition : SagaDefinition) (steps : String → SagaStep Context)
    (draft : SagaRecord Context) : Next → Prop
  | .work mode _ _ | .again mode _ => mode.Fits draft
  | .compensate message => draft.failure = message
  | .abort _ | .finish => destination definition steps draft = draft.position

def Guided (definition : SagaDefinition) (steps : String → SagaStep Context) : Phase Context → Prop
  | .looping mode current _ | .claiming mode current _ _ | .working mode current _ _ =>
    mode.Fits current
  | .saving current draft next =>
    destination definition steps draft = destination definition steps current ∧
      next.Fits definition steps draft
  | _ => True

section Guided

variable {definition : SagaDefinition} {steps : String → SagaStep Context} {clock : Nat}
  {store : SagaStore Context} {record current draft : SagaRecord Context} {phase : Phase Context}
  {mode : Mode} {remaining : List String} {next : Next}

theorem enter_guided (record : SagaRecord Context) :
    Guided definition steps (enter definition record) := by
  unfold enter advance compensate
  split
  · trivial
  · split
    · exact rfl
    · trivial

theorem loop_guided (sound : Sound definition clock store (.looping mode current remaining))
    (guided : mode.Fits current) :
    Guided definition steps (loop definition clock mode current remaining) := by
  obtain ⟨_, ahead⟩ := sound
  cases remaining with
  | nil =>
    cases mode with
    | advancing => exact ⟨destination_completed ahead, rfl⟩
    | compensating error => exact ⟨destination_failed ahead, rfl⟩
  | cons stepName rest =>
    have known := ahead.known
    by_cases live : leased clock current stepName
    · simp [loop, known, live, Guided]
    · simp only [loop, known, not_true, if_false, live]
      exact guided

theorem lost_guided : Guided definition steps (lost current next) := by
  cases next <;> trivial

theorem stored_guided (fits : next.Fits definition steps draft) :
    Guided definition steps (stored draft.bumped next) := by
  cases next with
  | work | again => exact fits
  | compensate message => exact fits
  | abort | finish => trivial

theorem proceed_guided (claimLeaseMs : Nat) (recovering : Bool)
    (sound : Sound definition clock store phase) (guided : Guided definition steps phase) :
    Guided definition steps (proceed definition claimLeaseMs clock recovering store phase).2.1 := by
  cases phase with
  | creating record => exact enter_guided _
  | loading sagaId =>
    cases held : store.get sagaId with
    | none =>
      simp only [proceed, held]
      trivial
    | some record =>
      simp only [proceed, held]
      exact enter_guided record
  | looping mode current remaining => exact loop_guided sound guided
  | claiming mode current stepName rest => exact ⟨destination_claimed, guided⟩
  | saving current draft next =>
    obtain ⟨copied, write⟩ := sound
    by_cases found : store current.sagaId = some current
    · simp only [proceed, save_current write.sagaId write.version found]
      exact stored_guided guided.2
    · simp only [proceed, save_stale write.sagaId write.version copied found]
      exact lost_guided
  | settled result =>
    cases result with
    | error message => cases recovering <;> trivial
    | ok record =>
      cases recovering with
      | false => trivial
      | true =>
        simp only [proceed, if_true]
        split <;> trivial
  | rereading sagaId =>
    cases held : store.get sagaId with
    | none | some =>
      simp only [proceed, held]
      trivial
  | working => exact guided
  | idle | rescheduling | recovered => trivial

theorem settle_guided {outcome : Except String Context} {event : SagaEvent} {phase' : Phase Context}
    (sound : Sound definition clock store phase) (guided : Guided definition steps phase)
    (answers : ∀ result ∈ phase.result steps, outcome = result)
    (settled : settle clock outcome phase = some (event, phase')) :
    Guided definition steps phase' := by
  cases phase with
  | working mode current stepName rest =>
    obtain ⟨_, ahead, _⟩ := sound
    cases mode with
    | advancing =>
      have answer := (answers _ rfl).symm
      cases outcome with
      | ok context =>
        cases settled
        exact ⟨destination_acted ahead answer, trivial⟩
      | error message =>
        cases settled
        exact ⟨destination_rejected ahead answer, rfl⟩
    | compensating error =>
      obtain rfl : current.failure = error := guided
      have answer := (answers _ rfl).symm
      cases outcome with
      | ok context =>
        cases settled
        exact ⟨destination_compensated ahead answer, rfl⟩
      | error message =>
        cases settled
        have refused := position_refused ahead answer
        exact ⟨destination_released, refused⟩
  | idle | creating | loading | looping | claiming | saving | settled | rereading | rescheduling
  | recovered => cases settled

end Guided

section Runs

variable {definition : SagaDefinition} {steps : String → SagaStep Context} {system : System Context}
  {sagaId : String} {record : SagaRecord Context}

def AllGuided (definition : SagaDefinition) (steps : String → SagaStep Context)
    (system : System Context) : Prop :=
  ∀ id, Guided definition steps (system.runners id).phase

theorem AllGuided.updated {after : System Context} {id : Nat} {runner : Runner Context}
    (guided : AllGuided definition steps system)
    (runners : after.runners = Function.update system.runners id runner)
    (here : Guided definition steps runner.phase) : AllGuided definition steps after := by
  intro other
  by_cases same : other = id
  · rw [runners, same, Function.update_self]
    exact here
  · rw [runners, Function.update_of_ne same]
    exact guided other

theorem begin_guided (clock : Nat) (call : SagaCall Context) :
    Guided definition steps (begin definition clock call).phase := by
  cases call <;> trivial

theorem step_guided (claimLeaseMs : Nat → Nat) (formed : Formed definition system)
    (guided : AllGuided definition steps system) {input : Input Context}
    (answers : Answers steps system input) :
    AllGuided definition steps (step definition claimLeaseMs system input).2 := by
  cases input with
  | tick elapsedMs => exact guided
  | start id call =>
    simp only [step]
    split
    · exact guided.updated rfl (begin_guided system.clock call)
    · exact guided
  | fire id timer =>
    simp only [step]
    split
    · exact guided
    · split
      · exact guided.updated rfl (begin_guided system.clock _)
      · exact guided
  | proceed id =>
    simp only [step]
    split
    · exact guided
    · exact guided.updated rfl
        (proceed_guided (claimLeaseMs id) (system.runners id).recovering (formed.sound id) (guided id))
  | settle id outcome =>
    simp only [step]
    split
    · exact guided
    · split
      · exact guided
      · rename_i event phase settled
        exact guided.updated rfl (settle_guided (formed.sound id) (guided id) answers settled)
  | crash id => exact guided.updated rfl (guided id)

-- A runner that is about to create the record of a saga would send it to the given place.
def Phase.Sends (definition : SagaDefinition) (steps : String → SagaStep Context) (sagaId : String)
    (goal : Destination Context) : Phase Context → Prop
  | .creating record => record.sagaId = sagaId → destination definition steps record = goal
  | _ => True

/-- Where a saga is going, whoever works on it, also while its record is still to be created. -/
structure Bound (definition : SagaDefinition) (steps : String → SagaStep Context) (sagaId : String)
    (goal : Destination Context) (system : System Context) : Prop where
  stored : ∀ record, system.store sagaId = some record → destination definition steps record = goal
  sends : ∀ id, (system.runners id).phase.Sends definition steps sagaId goal

variable {goal : Destination Context}

theorem Bound.updated {after : System Context} {id : Nat} {runner : Runner Context}
    (bound : Bound definition steps sagaId goal system)
    (runners : after.runners = Function.update system.runners id runner)
    (stored : ∀ record, after.store sagaId = some record →
      destination definition steps record = goal)
    (sends : runner.phase.Sends definition steps sagaId goal) :
    Bound definition steps sagaId goal after := by
  refine ⟨stored, ?_⟩
  intro other
  by_cases same : other = id
  · rw [runners, same, Function.update_self]
    exact sends
  · rw [runners, Function.update_of_ne same]
    exact bound.sends other

theorem enter_sends (record : SagaRecord Context) :
    (enter definition record).Sends definition steps sagaId goal := by
  unfold enter advance compensate
  split
  · trivial
  · split <;> trivial

theorem loop_sends (clock : Nat) (mode : Mode) (current : SagaRecord Context)
    (remaining : List String) :
    (loop definition clock mode current remaining).Sends definition steps sagaId goal := by
  cases remaining with
  | nil => cases mode <;> trivial
  | cons stepName rest =>
    simp only [loop]
    split
    · cases mode <;> trivial
    · split <;> trivial

theorem proceed_sends (claimLeaseMs clock : Nat) (recovering : Bool) (store : SagaStore Context)
    (phase : Phase Context) :
    (proceed definition claimLeaseMs clock recovering store phase).2.1.Sends
      definition steps sagaId goal := by
  cases phase with
  | creating record => exact enter_sends _
  | loading named =>
    cases held : store.get named with
    | none =>
      simp only [proceed, held]
      trivial
    | some record =>
      simp only [proceed, held]
      exact enter_sends record
  | looping mode current remaining => exact loop_sends clock mode current remaining
  | saving current draft next =>
    cases saved : store.save draft with
    | none =>
      simp only [proceed, saved]
      cases next <;> trivial
    | some result =>
      simp only [proceed, saved]
      cases next <;> trivial
  | settled result =>
    cases result with
    | error message => cases recovering <;> trivial
    | ok record =>
      cases recovering with
      | false => trivial
      | true =>
        simp only [proceed, if_true]
        split <;> trivial
  | rereading named =>
    cases held : store.get named with
    | none | some =>
      simp only [proceed, held]
      trivial
  | idle | claiming | working | rescheduling | recovered => trivial

theorem settle_sends {clock : Nat} {outcome : Except String Context} {phase phase' : Phase Context}
    {event : SagaEvent} (settled : settle clock outcome phase = some (event, phase')) :
    phase'.Sends definition steps sagaId goal := by
  cases phase with
  | working mode current stepName rest => cases mode <;> cases outcome <;> cases settled <;> trivial
  | idle | creating | loading | looping | claiming | saving | settled | rereading | rescheduling
  | recovered => cases settled

theorem proceed_stored (claimLeaseMs clock : Nat) (recovering : Bool) {store : SagaStore Context}
    {phase : Phase Context} (sound : Sound definition clock store phase)
    (guided : Guided definition steps phase)
    (stored : ∀ record, store sagaId = some record → destination definition steps record = goal)
    (sends : phase.Sends definition steps sagaId goal) (record : SagaRecord Context)
    (found : (proceed definition claimLeaseMs clock recovering store phase).1 sagaId = some record) :
    destination definition steps record = goal := by
  cases phase with
  | creating created =>
    cases held : store created.sagaId with
    | some existing =>
      simp only [proceed, SagaStore.createIfNotExists, held] at found
      exact stored record found
    | none =>
      simp only [proceed, SagaStore.createIfNotExists, held] at found
      by_cases ours : sagaId = created.sagaId
      · rw [ours, Function.update_self] at found
        cases found
        exact sends ours.symm
      · rw [Function.update_of_ne ours] at found
        exact stored record found
  | saving current draft next =>
    obtain ⟨copied, write⟩ := sound
    by_cases present : store current.sagaId = some current
    · simp only [proceed, save_current write.sagaId write.version present] at found
      by_cases ours : sagaId = current.sagaId
      · rw [ours, Function.update_self] at found
        cases found
        exact guided.1.trans (stored current (ours ▸ present))
      · rw [Function.update_of_ne ours] at found
        exact stored record found
    · simp only [proceed, save_stale write.sagaId write.version copied present] at found
      exact stored record found
  | loading named | rereading named =>
    cases held : store.get named with
    | none | some =>
      simp only [proceed, held] at found
      exact stored record found
  | settled result =>
    cases result <;> cases recovering <;> exact stored record found
  | idle | looping | claiming | working | rescheduling | recovered => exact stored record found

/-- What the uninterrupted run of a saga comes to. -/
def uninterrupted (definition : SagaDefinition) (steps : String → SagaStep Context)
    (initialContext : Context) : Destination Context :=
  carryOut steps [] definition.stepOrder initialContext

def Repeats (sagaId : String) (initialContext : Context) : Input Context → Prop
  | .start _ (.run named _ context) => named = sagaId → context = initialContext
  | _ => True

theorem begin_sends {initialContext : Context} (clock id : Nat) (call : SagaCall Context)
    (repeats : Repeats sagaId initialContext (.start id call)) :
    (begin definition clock call).phase.Sends definition steps sagaId
      (uninterrupted definition steps initialContext) := by
  cases call with
  | run named orderId context =>
    intro ours
    obtain rfl := repeats ours
    simp [destination, uninterrupted]
  | resume | recoverOne => trivial

theorem Bound.step {initialContext : Context} (claimLeaseMs : Nat → Nat)
    (bound : Bound definition steps sagaId (uninterrupted definition steps initialContext) system)
    (formed : Formed definition system) (guided : AllGuided definition steps system)
    {input : Input Context} (repeats : Repeats sagaId initialContext input) :
    Bound definition steps sagaId (uninterrupted definition steps initialContext)
      (step definition claimLeaseMs system input).2 := by
  cases input with
  | tick elapsedMs => exact ⟨bound.stored, bound.sends⟩
  | start id call =>
    simp only [Saga.step]
    split
    · exact bound.updated rfl bound.stored (begin_sends system.clock id call repeats)
    · exact bound
  | fire id timer =>
    simp only [Saga.step]
    split
    · exact bound
    · split
      · exact bound.updated rfl bound.stored trivial
      · exact bound
  | proceed id =>
    simp only [Saga.step]
    split
    · exact bound
    · exact bound.updated rfl
        (proceed_stored _ _ _ (formed.sound id) (guided id) bound.stored
          (bound.sends id))
        (proceed_sends ..)
  | settle id outcome =>
    simp only [Saga.step]
    split
    · exact bound
    · split
      · exact bound
      · rename_i event phase settled
        exact bound.updated rfl bound.stored (settle_sends settled)
  | crash id => exact bound.updated rfl bound.stored (bound.sends id)

def Answered (definition : SagaDefinition) (steps : String → SagaStep Context)
    (claimLeaseMs : Nat → Nat) (start : System Context) (inputs : List (Input Context)) : Prop :=
  ∀ receipt ∈ Run.history (step definition claimLeaseMs) start inputs,
    Answers steps receipt.before receipt.input

theorem run_bound {initialContext : Context} (claimLeaseMs : Nat → Nat)
    (formed : Formed definition system) (guided : AllGuided definition steps system)
    (bound : Bound definition steps sagaId (uninterrupted definition steps initialContext) system)
    (inputs : List (Input Context))
    (answered : Answered definition steps claimLeaseMs system inputs)
    (repeats : ∀ input ∈ inputs, Repeats sagaId initialContext input) :
    Formed definition (Run.final (step definition claimLeaseMs) system inputs) ∧
      AllGuided definition steps (Run.final (step definition claimLeaseMs) system inputs) ∧
      Bound definition steps sagaId (uninterrupted definition steps initialContext)
        (Run.final (step definition claimLeaseMs) system inputs) := by
  induction inputs with
  | nil => exact ⟨formed, guided, bound⟩
  | cons input earlier ih =>
    obtain ⟨formed, guided, bound⟩ :=
      ih (fun receipt member => answered receipt (List.mem_cons_of_mem _ member))
        fun input member => repeats input (List.mem_cons_of_mem _ member)
    exact ⟨(step_systemStep claimLeaseMs formed input).formed formed,
      step_guided claimLeaseMs formed guided (answered _ List.mem_cons_self),
      bound.step claimLeaseMs formed guided (repeats input List.mem_cons_self)⟩

end Runs

end Delego.Saga
