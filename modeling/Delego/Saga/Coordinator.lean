import Delego.Saga.Store

set_option autoImplicit false

namespace Delego.Saga

variable {Context : Type}

namespace SagaRecord

def claimed (record : SagaRecord Context) (stepName : String) (claimExpiresAt now : Nat) :
    SagaRecord Context :=
  { record with
    currentStep := some stepName
    claimExpiresAt := some claimExpiresAt
    updatedAt := now }

def acted (record : SagaRecord Context) (stepName : String) (context : Context) (now : Nat) :
    SagaRecord Context :=
  { record with
    context
    completedSteps := record.completedSteps ++ [stepName]
    claimExpiresAt := none
    updatedAt := now }

def rejected (record : SagaRecord Context) (message : String) (now : Nat) : SagaRecord Context :=
  { record with
    status := .compensating
    error := some message
    claimExpiresAt := none
    updatedAt := now }

def completed (record : SagaRecord Context) (now : Nat) : SagaRecord Context :=
  { record with
    status := .completed
    currentStep := none
    claimExpiresAt := none
    updatedAt := now }

def orphaned (record : SagaRecord Context) (message : String) (now : Nat) : SagaRecord Context :=
  { record with
    error := some message
    updatedAt := now }

def compensated (record : SagaRecord Context) (stepName : String) (context : Context) (now : Nat) :
    SagaRecord Context :=
  { record with
    context
    completedSteps := record.completedSteps.filter fun name => name ≠ stepName
    claimExpiresAt := none
    updatedAt := now }

def released (record : SagaRecord Context) (now : Nat) : SagaRecord Context :=
  { record with
    claimExpiresAt := none
    updatedAt := now }

def failed (record : SagaRecord Context) (now : Nat) : SagaRecord Context :=
  { record with
    status := .failed
    currentStep := none
    claimExpiresAt := none
    updatedAt := now }

end SagaRecord

-- Which of the two loops a runner is in; `compensate` carries the error it was entered with.
inductive Mode where
  | advancing
  | compensating (error : String)
  deriving DecidableEq

inductive Next where
  | work (mode : Mode) (stepName : String) (rest : List String)
  | again (mode : Mode) (rest : List String)
  | compensate (message : String)
  | abort (message : String)
  | finish
  deriving DecidableEq

/-- Where a call stands between two of its awaits: the locals it still needs are in the phase. -/
inductive Phase (Context : Type) where
  | idle
  | creating (record : SagaRecord Context)
  | loading (sagaId : String)
  | looping (mode : Mode) (current : SagaRecord Context) (remaining : List String)
  | claiming (mode : Mode) (current : SagaRecord Context) (stepName : String) (rest : List String)
  | working (mode : Mode) (current : SagaRecord Context) (stepName : String) (rest : List String)
  | saving (current draft : SagaRecord Context) (next : Next)
  | settled (result : Except String (SagaRecord Context))
  | rereading (sagaId : String)
  | rescheduling (latest : SagaRecord Context)
  | recovered

structure Timer where
  sagaId : String
  due : Nat
  deriving DecidableEq

def compensate (record : SagaRecord Context) (error : String) : Phase Context :=
  .looping (.compensating error) record record.completedSteps.reverse

def advance (definition : SagaDefinition) (record : SagaRecord Context) : Phase Context :=
  if record.status = .compensating then compensate record (record.error.getD "Saga failed")
  else
    .looping .advancing record
      (definition.stepOrder.filter fun name => name ∉ record.completedSteps)

-- The common end of `run` and `resume`: a finished saga is never restarted.
def enter (definition : SagaDefinition) (record : SagaRecord Context) : Phase Context :=
  if record.status.terminal then .settled (.ok record) else advance definition record

-- The lease test of `claimStep`, with its reading of the clock.
def leased (clock : Nat) (record : SagaRecord Context) (stepName : String) : Prop :=
  record.currentStep = some stepName ∧ ∃ claimExpiresAt ∈ record.claimExpiresAt, clock < claimExpiresAt

instance (clock : Nat) (record : SagaRecord Context) (stepName : String) :
    Decidable (leased clock record stepName) :=
  inferInstanceAs (Decidable (_ ∧ _))

/-- One turn of a loop up to the save or the claim it leads to. -/
def loop (definition : SagaDefinition) (clock : Nat) (mode : Mode) (current : SagaRecord Context) :
    List String → Phase Context
  | [] =>
    match mode with
    | .advancing => .saving current (current.completed clock) .finish
    | .compensating _ => .saving current (current.failed clock) .finish
  | stepName :: rest =>
    if stepName ∉ definition.stepOrder then
      match mode with
      | .advancing => .settled (.error ("Unknown saga step: " ++ stepName))
      | .compensating _ =>
        let message := "Unknown saga step during compensation: " ++ stepName
        .saving current (current.orphaned message clock) (.abort message)
    else if leased clock current stepName then .settled (.ok current)
    else .claiming mode current stepName rest

-- A lost race is a refused claim; after a step's work it is thrown.
def lost (current : SagaRecord Context) : Next → Phase Context
  | .work .. => .settled (.ok current)
  | _ => .settled (.error ("Saga " ++ current.sagaId ++
      " was modified by another runner — aborting to avoid duplicate step execution"))

def stored (saved : SagaRecord Context) : Next → Phase Context
  | .work mode stepName rest => .working mode saved stepName rest
  | .again mode rest => .looping mode saved rest
  | .compensate message => compensate saved message
  | .abort message => .settled (.error message)
  | .finish => .settled (.ok saved)

-- A timer of the host cannot be set further ahead than this, and then fires at once.
def setTimeout (clock delayMs : Nat) : Nat :=
  clock + if 2147483647 < delayMs then 1 else delayMs

def incomplete (record : SagaRecord Context) : Prop :=
  record.status = .running ∨ record.status = .compensating

instance (record : SagaRecord Context) : Decidable (incomplete record) :=
  inferInstanceAs (Decidable (_ ∨ _))

def scheduleRetryIfLeased (clock : Nat) (record : SagaRecord Context) : Option Timer :=
  if ¬ incomplete record then none
  else
    match record.claimExpiresAt with
    | none => none
    | some claimExpiresAt =>
      if claimExpiresAt ≤ clock then none
      else some ⟨record.sagaId, setTimeout clock (claimExpiresAt - clock + 50)⟩

/-- What a runner does next by itself; only `recoverOne` goes on after `resume` has settled. -/
def proceed (definition : SagaDefinition) (claimLeaseMs clock : Nat) (recovering : Bool)
    (store : SagaStore Context) : Phase Context → SagaStore Context × Phase Context × Option Timer
  | .creating record =>
    let (existing, store) := store.createIfNotExists record
    (store, enter definition existing, none)
  | .loading sagaId =>
    match store.get sagaId with
    | none => (store, .settled (.error ("Saga not found: " ++ sagaId)), none)
    | some record => (store, enter definition record, none)
  | .looping mode current remaining => (store, loop definition clock mode current remaining, none)
  | .claiming mode current stepName rest =>
    (store, .saving current (current.claimed stepName (clock + claimLeaseMs) clock)
      (.work mode stepName rest), none)
  | .saving current draft next =>
    match store.save draft with
    | none => (store, lost current next, none)
    | some (saved, store) => (store, stored saved next, none)
  | .settled (.ok result) =>
    if recovering then
      (store,
        if incomplete result ∧ result.claimExpiresAt = none then .rereading result.sagaId
        else .recovered,
        scheduleRetryIfLeased clock result)
    else (store, .settled (.ok result), none)
  | .settled (.error message) =>
    (store, if recovering then .recovered else .settled (.error message), none)
  | .rereading sagaId =>
    match store.get sagaId with
    | none => (store, .recovered, none)
    | some latest => (store, .rescheduling latest, none)
  | .rescheduling latest => (store, .recovered, scheduleRetryIfLeased clock latest)
  -- Nothing to do, or waiting for the action or the compensation.
  | .idle => (store, .idle, none)
  | .working mode current stepName rest => (store, .working mode current stepName rest, none)
  | .recovered => (store, .recovered, none)

/-- The action or the compensation a runner waits for resolves, or rejects with a message. -/
def settle (clock : Nat) (outcome : Except String Context) :
    Phase Context → Option (SagaEvent × Phase Context)
  | .working .advancing current stepName rest =>
    match outcome with
    | .ok context =>
      some (⟨current.sagaId, stepName, .acted⟩,
        .saving current (current.acted stepName context clock) (.again .advancing rest))
    | .error message =>
      some (⟨current.sagaId, stepName, .rejected⟩,
        .saving current (current.rejected message clock) (.compensate message))
  | .working (.compensating error) current stepName rest =>
    match outcome with
    | .ok context =>
      some (⟨current.sagaId, stepName, .compensated⟩,
        .saving current (current.compensated stepName context clock)
          (.again (.compensating error) rest))
    | .error message =>
      some (⟨current.sagaId, stepName, .compensationRejected⟩,
        .saving current (current.released clock) (.abort message))
  | _ => none

structure Runner (Context : Type) where
  recovering : Bool
  crashed : Bool
  phase : Phase Context

def Runner.idle : Runner Context where
  recovering := false
  crashed := false
  phase := .idle

def begin (definition : SagaDefinition) (clock : Nat) : SagaCall Context → Runner Context
  | .run sagaId orderId initialContext =>
    { recovering := false, crashed := false, phase := .creating
        { sagaId, orderId, status := .running, completedSteps := [], context := initialContext,
          currentStep := definition.stepOrder.head?, error := none, version := 0,
          claimExpiresAt := none, createdAt := clock, updatedAt := clock } }
  | .resume sagaId => { recovering := false, crashed := false, phase := .loading sagaId }
  | .recoverOne sagaId => { recovering := true, crashed := false, phase := .loading sagaId }

structure System (Context : Type) where
  clock : Nat
  store : SagaStore Context
  runners : Nat → Runner Context
  timers : List Timer

def System.initial (clock : Nat) : System Context where
  clock
  store _ := none
  runners _ := .idle
  timers := []

inductive Input (Context : Type) where
  | tick (elapsedMs : Nat)
  | start (runner : Nat) (call : SagaCall Context)
  | fire (runner : Nat) (timer : Nat)
  | proceed (runner : Nat)
  | settle (runner : Nat) (outcome : Except String Context)
  | crash (runner : Nat)

def System.withRunner (system : System Context) (id : Nat) (runner : Runner Context) :
    System Context :=
  { system with
    runners := Function.update system.runners id runner }

def Phase.isIdle : Phase Context → Bool
  | .idle => true
  | _ => false

def step (definition : SagaDefinition) (claimLeaseMs : Nat → Nat) (system : System Context) :
    Input Context → Option SagaEvent × System Context
  | .tick elapsedMs => (none, { system with clock := system.clock + elapsedMs })
  | .start id call =>
    if (system.runners id).phase.isIdle then
      (none, system.withRunner id (begin definition system.clock call))
    else (none, system)
  | .fire id timer =>
    match system.timers[timer]? with
    | none => (none, system)
    | some ⟨sagaId, due⟩ =>
      if (system.runners id).phase.isIdle ∧ due ≤ system.clock then
        (none, { system.withRunner id (begin definition system.clock (.recoverOne sagaId)) with
          timers := system.timers.eraseIdx timer })
      else (none, system)
  | .proceed id =>
    let runner := system.runners id
    if runner.crashed then (none, system)
    else
      let (store, phase, timer) := proceed definition (claimLeaseMs id) system.clock
        runner.recovering system.store runner.phase
      (none, { system.withRunner id { runner with phase } with
        store
        timers := system.timers ++ timer.toList })
  | .settle id outcome =>
    let runner := system.runners id
    if runner.crashed then (none, system)
    else
      match settle system.clock outcome runner.phase with
      | none => (none, system)
      | some (event, phase) => (some event, system.withRunner id { runner with phase })
  | .crash id =>
    (none, system.withRunner id { system.runners id with crashed := true })

end Delego.Saga
