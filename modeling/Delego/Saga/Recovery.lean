import Delego.Saga.Answers
import Delego.Saga.Resume

set_option autoImplicit false

namespace Delego.Saga

open Shared

variable {Context : Type}

/-- Where the pass of `recoverAll` is: it has still to read the incomplete sagas, it goes through them and
awaits one recovery after the other, or it has returned. -/
inductive RecoverAll where
  | listing
  | recovering (awaited : Option Nat) (pending : List String)
  | finished
  deriving DecidableEq

/-- A process that has been started anew, with its runners and its pass over the incomplete sagas. -/
structure Startup (Context : Type) where
  system : System Context
  pass : RecoverAll

inductive StartupInput (Context : Type) where
  | saga (input : Input Context)
  | list (sagaIds : List String)
  | recover (runner : Nat)

def Phase.isRecovered : Phase Context → Bool
  | .recovered => true
  | _ => false

-- What is thrown in a recovery is caught there, so the pass goes on also after a failure of the store.
def Runner.resolved (runner : Runner Context) : Bool := runner.crashed || runner.phase.isRecovered

def System.restarted (system : System Context) : System Context :=
  { system with
    runners := fun _ => .idle
    timers := [] }

def Startup.begin (system : System Context) : Startup Context := ⟨system.restarted, .listing⟩

def Startup.recover (definition : SagaDefinition) (startup : Startup Context) (id : Nat) : Startup Context :=
  match startup.pass with
  | .recovering awaited pending =>
    if awaited.all fun awaited => (startup.system.runners awaited).resolved then
      match pending with
      | [] => { startup with pass := .finished }
      | sagaId :: rest =>
        if (startup.system.runners id).phase.isIdle then
          { system := startup.system.withRunner id
              (Saga.begin definition startup.system.clock (.recoverOne sagaId))
            pass := .recovering (some id) rest }
        else startup
    else startup
  | _ => startup

def startupStep (definition : SagaDefinition) (claimLeaseMs : Nat → Nat) (startup : Startup Context) :
    StartupInput Context → Option SagaEvent × Startup Context
  | .saga input =>
    -- No request is served before the pass has returned.
    if input.starts = true ∧ startup.pass ≠ .finished then (none, startup)
    else
      let (event, system) := step definition claimLeaseMs startup.system input
      (event, { startup with system })
  | .list sagaIds =>
    match startup.pass with
    | .listing => (none, { startup with pass := .recovering none sagaIds })
    | _ => (none, startup)
  | .recover id => (none, startup.recover definition id)

/-- What `listIncomplete` reads: each incomplete saga once, in some order. -/
structure Lists (store : SagaStore Context) (sagaIds : List String) : Prop where
  distinct : sagaIds.Nodup
  incomplete : ∀ sagaId, sagaId ∈ sagaIds ↔ ∃ record, store sagaId = some record ∧ incomplete record

/-- The steps of the sagas settle as functions, whoever runs a saga anew gives it the same context, and the store
lists what it holds. -/
def StartupInput.Genuine (steps : String → SagaStep Context) (contexts : String → Context)
    (startup : Startup Context) : StartupInput Context → Prop
  | .saga input => Answers steps startup.system input ∧ ∀ sagaId, Repeats sagaId (contexts sagaId) input
  | .list sagaIds => Lists startup.system.store sagaIds
  | .recover _ => True

section Arrived

variable {definition : SagaDefinition} {steps : String → SagaStep Context} {clock : Nat}
  {current draft : SagaRecord Context} {next : Next}

theorem undo_status (error : String) (remaining : List String) (context : Context) :
    (undo steps error remaining context).status ≠ .running := by
  induction remaining generalizing context with
  | nil => simp [undo]
  | cons stepName rest ih =>
    unfold undo
    split
    · exact ih _
    · simp

theorem undo_length (error : String) (remaining : List String) (context : Context) :
    (undo steps error remaining context).completedSteps.length ≤ remaining.length := by
  induction remaining generalizing context with
  | nil => simp [undo]
  | cons stepName rest ih =>
    unfold undo
    split
    · exact Nat.le_succ_of_le (ih _)
    · simp

theorem carryOut_status (completedSteps remaining : List String) (context : Context) :
    (carryOut steps completedSteps remaining context).status ≠ .running := by
  induction remaining generalizing completedSteps context with
  | nil => simp [carryOut]
  | cons stepName rest ih =>
    unfold carryOut
    split
    · exact ih _ _
    · exact undo_status _ _ _

theorem Write.position_kept (write : Write definition clock current next draft)
    (same : destination definition steps draft.bumped = destination definition steps current)
    (there : destination definition steps current = current.position) :
    draft.bumped.position = current.position := by
  have running {remaining : List String} (ahead : Ahead definition current remaining .advancing) : False := by
    rw [destination_advancing ahead] at there
    apply carryOut_status current.completedSteps remaining current.context
    rw [there]
    exact ahead.1
  cases write with
  | claim | released => rfl
  | acted ahead => exact (running ahead).elim
  | rejected ahead => exact (running ahead).elim
  | completed ahead => exact (running ahead).elim
  | compensated ahead =>
    -- One step fewer is left to undo, so the saga would have to end with fewer steps than it has.
    have fewer : (destination definition steps current).completedSteps.length < current.completedSteps.length := by
      have lengths := congrArg List.length ahead.2.2
      rw [List.length_reverse, List.length_cons] at lengths
      rw [← same, destination_compensating ahead.compensated, lengths]
      exact Nat.lt_succ_of_le (undo_length _ _ _)
    rw [there] at fewer
    exact (Nat.lt_irrefl _ fewer).elim
  | failed ahead =>
    rw [destination_compensating ahead] at there
    have status := congrArg Destination.status there
    cases status.trans ahead.1

variable {system : System Context} {sagaId : String} {record : SagaRecord Context} {initialContext : Context}

theorem step_stays (claimLeaseMs : Nat → Nat) (formed : Formed definition system)
    (guided : AllGuided definition steps system)
    (bound : Bound definition steps sagaId (uninterrupted definition steps initialContext) system)
    (found : system.store sagaId = some record)
    (there : record.position = uninterrupted definition steps initialContext) {input : Input Context}
    (repeats : Repeats sagaId initialContext input) :
    ∃ later, (step definition claimLeaseMs system input).2.store sagaId = some later ∧
      later.position = uninterrupted definition steps initialContext := by
  have bound' := bound.step claimLeaseMs formed guided repeats
  rcases (step_systemStep claimLeaseMs formed input).storeStep.slot sagaId with same | ⟨_, absent, _⟩ |
    ⟨_, current, draft, _, present, _, saved, write⟩
  · exact ⟨record, same.trans found, there⟩
  · cases absent.symm.trans found
  · cases present.symm.trans found
    have going := bound.stored _ found
    refine ⟨draft.bumped, saved, ?_⟩
    rw [write.position_kept ((bound'.stored _ saved).trans going.symm) (going.trans there.symm), there]

end Arrived

section Away

variable {definition : SagaDefinition} {clock : Nat} {store : SagaStore Context} {phase : Phase Context}
  {sagaId : String}

/-- A runner is away from a saga if it holds nothing of it and will not read it. -/
def Phase.Away (sagaId : String) (phase : Phase Context) : Prop :=
  phase.Concerns (fun _ _ => True) fun other _ => other ≠ sagaId

theorem away_naming (sagaId : String) : Naming (fun _ _ => True) fun other _ => other ≠ sagaId where
  stored _ _ _ := trivial
  unique _ _ _ away _ := away

theorem StoreOk.keeps (formed : StoreOk definition store) : store.Keeps fun _ _ => True :=
  fun sagaId record found => ⟨formed.keyed sagaId record found, trivial⟩

theorem Phase.Away.proceed {claimLeaseMs : Nat} {recovering : Bool} (formed : StoreOk definition store)
    (away : phase.Away sagaId) :
    (proceed definition claimLeaseMs clock recovering store phase).2.1.Away sagaId :=
  (proceed_concerns (away_naming sagaId) formed.keeps away).1

theorem scheduleRetryIfLeased_sagaId {record : SagaRecord Context} {timer : Timer}
    (scheduled : timer ∈ scheduleRetryIfLeased clock record) : timer.sagaId = record.sagaId := by
  unfold scheduleRetryIfLeased at scheduled
  split at scheduled
  · cases scheduled
  · split at scheduled
    · cases scheduled
    · split at scheduled
      · cases scheduled
      · cases scheduled
        rfl

theorem Phase.Away.untouched (claimLeaseMs : Nat) (recovering : Bool) (sound : Sound definition clock store phase)
    (away : phase.Away sagaId) :
    (Saga.proceed definition claimLeaseMs clock recovering store phase).1 sagaId = store sagaId ∧
      ∀ timer ∈ (Saga.proceed definition claimLeaseMs clock recovering store phase).2.2,
        timer.sagaId ≠ sagaId := by
  cases phase with
  | creating record =>
    have apart : sagaId ≠ record.sagaId := fun same => away same.symm
    cases held : store record.sagaId with
    | some existing => simp [Saga.proceed, SagaStore.createIfNotExists, held]
    | none => simp [Saga.proceed, SagaStore.createIfNotExists, held, apart]
  | saving current draft next =>
    obtain ⟨copied, write⟩ := sound
    have apart : sagaId ≠ current.sagaId := fun same => away.1 same.symm
    by_cases present : store current.sagaId = some current
    · simp [Saga.proceed, save_current write.sagaId write.version present, apart]
    · simp [Saga.proceed, save_stale write.sagaId write.version copied present]
  | settled result =>
    cases result with
    | error message => simp [Saga.proceed]
    | ok record =>
      cases recovering with
      | false => simp [Saga.proceed]
      | true =>
        refine ⟨rfl, ?_⟩
        intro timer scheduled
        rw [scheduleRetryIfLeased_sagaId scheduled]
        exact away
  | loading named | rereading named =>
    cases held : store.get named <;> simp [Saga.proceed, held]
  | rescheduling latest =>
    refine ⟨rfl, ?_⟩
    intro timer scheduled
    rw [scheduleRetryIfLeased_sagaId scheduled]
    exact away
  | idle | looping | claiming | working | recovered => simp [Saga.proceed]

end Away

section Clear

variable {definition : SagaDefinition} {steps : String → SagaStep Context} {system : System Context}
  {sagaId : String} {working : Option Nat} {id : Nat}

structure Clear (sagaId : String) (working : Option Nat) (system : System Context) : Prop where
  away : ∀ id, working ≠ some id → (system.runners id).phase.Away sagaId
  untimed : ∀ timer ∈ system.timers, timer.sagaId ≠ sagaId

theorem Clear.withRunner (clear : Clear sagaId working system) {runner : Runner Context}
    (own : working ≠ some id → runner.phase.Away sagaId) :
    Clear sagaId working (system.withRunner id runner) where
  away := by
    intro other apart
    by_cases same : other = id
    · subst same
      simpa [System.withRunner] using own apart
    · simpa [System.withRunner, same] using clear.away other apart
  untimed := clear.untimed

theorem Clear.timers {retries : List Timer} (clear : Clear sagaId working system)
    (untimed : ∀ timer ∈ retries, timer.sagaId ≠ sagaId) :
    Clear sagaId working { system with timers := retries } :=
  ⟨clear.away, untimed⟩

theorem Clear.elsewhere (claimLeaseMs : Nat → Nat) (formed : Formed definition system)
    (clear : Clear sagaId working system) (input : Input Context) (continues : input.starts = false)
    (apart : ∀ id, working = some id → input.runner ≠ some id) :
    Clear sagaId working (step definition claimLeaseMs system input).2 ∧
      (step definition claimLeaseMs system input).2.store sagaId = system.store sagaId := by
  cases input with
  | tick elapsedMs => exact ⟨⟨clear.away, clear.untimed⟩, rfl⟩
  | start id call => cases continues
  | fire id timer =>
    cases found : system.timers[timer]? with
    | none =>
      simp only [step, found]
      exact ⟨clear, trivial⟩
    | some retry =>
      have other : retry.sagaId ≠ sagaId := clear.untimed retry (List.mem_of_getElem? found)
      simp only [step, found]
      split
      · refine ⟨?_, rfl⟩
        have begun : (Saga.begin definition system.clock (.recoverOne retry.sagaId) : Runner Context).phase.Away
            sagaId := fun _ _ => other
        apply (clear.withRunner fun _ => begun).timers
        intro timer member
        exact clear.untimed timer (List.mem_of_mem_eraseIdx member)
      · exact ⟨clear, rfl⟩
  | proceed id =>
    have own : working ≠ some id := fun same => apart id same rfl
    have away := clear.away id own
    simp only [step]
    split
    · exact ⟨clear, rfl⟩
    · obtain ⟨row, retries⟩ := away.untouched (claimLeaseMs id) (system.runners id).recovering
        (formed.sound id)
      refine ⟨⟨?_, ?_⟩, row⟩
      · exact (clear.withRunner fun _ => away.proceed formed.storeOk).away
      · intro timer member
        rcases List.mem_append.mp member with old | new
        · exact clear.untimed timer old
        · exact retries timer (Option.mem_toList.mp new)
  | settle id outcome =>
    have own : working ≠ some id := fun same => apart id same rfl
    simp only [step]
    split
    · exact ⟨clear, rfl⟩
    · split
      · exact ⟨clear, rfl⟩
      · next settled =>
        exact ⟨clear.withRunner fun _ => settle_concerns settled (clear.away id own), rfl⟩
  | crash id => exact ⟨clear.withRunner (clear.away id), rfl⟩

end Clear

section Underway

variable {definition : SagaDefinition} {steps : String → SagaStep Context} {clock : Nat}
  {store : SagaStore Context} {phase : Phase Context} {sagaId : String}

def Phase.underway : Phase Context → Bool
  | .creating _ | .loading _ | .looping .. | .claiming .. | .working .. | .saving .. => true
  | .idle | .settled _ | .rereading _ | .rescheduling _ | .recovered => false

theorem Undisturbed.arrived (undisturbed : Undisturbed definition steps clock store sagaId phase)
    (ended : phase.underway = false) :
    ∃ record, store sagaId = some record ∧ destination definition steps record = record.position := by
  cases phase with
  | idle => exact undisturbed.elim
  | settled | rereading | rescheduling | recovered => exact undisturbed
  | creating | loading | looping | claiming | working | saving => cases ended

theorem Undisturbed.near (formed : StoreOk definition store)
    (undisturbed : Undisturbed definition steps clock store sagaId phase) (underway : phase.underway = true) :
    ¬ phase.Away sagaId := by
  intro away
  cases phase with
  | creating record => exact away undisturbed.1
  | loading named => exact away "" trivial undisturbed.1
  | looping mode current remaining => exact away (formed.keyed _ _ undisturbed.1)
  | claiming mode current stepName rest => exact away (formed.keyed _ _ undisturbed)
  | working mode current stepName rest => exact away (formed.keyed _ _ undisturbed)
  | saving current draft next => exact away.1 (formed.keyed _ _ undisturbed)
  | idle | settled | rereading | rescheduling | recovered => cases underway

theorem proceed_unscheduled (claimLeaseMs : Nat) (recovering : Bool) (underway : phase.underway = true) :
    (proceed definition claimLeaseMs clock recovering store phase).2.2 = none := by
  cases phase with
  | loading named => cases held : store.get named <;> simp only [proceed, held]
  | saving current draft next => cases saved : store.save draft <;> simp only [proceed, saved]
  | creating | looping | claiming | working => rfl
  | idle | settled | rereading | rescheduling | recovered => cases underway

theorem proceed_still_undisturbed (claimLeaseMs : Nat) (recovering : Bool) (formed : StoreOk definition store)
    (sound : Sound definition clock store phase) (guided : Guided definition steps phase)
    (undisturbed : Undisturbed definition steps clock store sagaId phase) :
    Undisturbed definition steps clock (proceed definition claimLeaseMs clock recovering store phase).1 sagaId
      (proceed definition claimLeaseMs clock recovering store phase).2.1 := by
  cases waits : phase.result steps with
  | none =>
    exact (proceed_undisturbed claimLeaseMs recovering formed sound guided undisturbed waits).1
  | some outcome =>
    cases phase with
    | working => exact undisturbed
    | _ => cases waits

end Underway

end Delego.Saga
