import Delego.Saga.Recovery

set_option autoImplicit false

namespace Delego.Saga

open Shared

variable {Context : Type}

/-- The recovery of one saga: it waits for its turn, it is under way, the saga is where it was going, or the
recovery was cut off. -/
inductive Stage (definition : SagaDefinition) (steps : String → SagaStep Context) (goal : Destination Context)
    (sagaId : String) (startup : Startup Context) : Prop
  | waiting {record : SagaRecord Context} (found : startup.system.store sagaId = some record)
      (unfinished : incomplete record) (unleased : Unleased startup.system.clock record)
      (clear : Clear sagaId none startup.system)
      (queued : startup.pass = .listing ∨
        ∃ awaited pending, startup.pass = .recovering awaited pending ∧ sagaId ∈ pending)
  | active {id : Nat} {pending : List String} (awaited : startup.pass = .recovering (some id) pending)
      (begun : sagaId ∉ pending) (alive : (startup.system.runners id).crashed = false)
      (underway : (startup.system.runners id).phase.underway = true)
      (undisturbed : Undisturbed definition steps startup.system.clock startup.system.store sagaId
        (startup.system.runners id).phase)
      (clear : Clear sagaId (some id) startup.system)
  | arrived {record : SagaRecord Context} (found : startup.system.store sagaId = some record)
      (there : record.position = goal)
  | cutOff {id : Nat} (crashed : (startup.system.runners id).crashed = true)
      (near : ¬ (startup.system.runners id).phase.Away sagaId)

structure Recovering (definition : SagaDefinition) (steps : String → SagaStep Context) (sagaId : String)
    (initialContext : Context) (startup : Startup Context) : Prop where
  formed : Formed definition startup.system
  guided : AllGuided definition steps startup.system
  bound : Bound definition steps sagaId (uninterrupted definition steps initialContext) startup.system
  distinct : ∀ awaited pending, startup.pass = .recovering awaited pending → pending.Nodup
  stage : Stage definition steps (uninterrupted definition steps initialContext) sagaId startup

section Stages

variable {definition : SagaDefinition} {steps : String → SagaStep Context} {sagaId : String}
  {initialContext : Context} {system : System Context} {pass : RecoverAll} {id : Nat}

theorem step_clock (claimLeaseMs : Nat → Nat) (input : Input Context) :
    system.clock ≤ (step definition claimLeaseMs system input).2.clock := by
  cases input with
  | tick elapsedMs => exact Nat.le_add_right ..
  | start | fire | proceed | settle | crash =>
    simp only [step]
    repeat' split
    all_goals exact Nat.le_refl _

theorem crashed_stays (claimLeaseMs : Nat → Nat) (crashed : (system.runners id).crashed = true)
    (near : ¬ (system.runners id).phase.Away sagaId) (input : Input Context) :
    ((step definition claimLeaseMs system input).2.runners id).crashed = true ∧
      ((step definition claimLeaseMs system input).2.runners id).phase = (system.runners id).phase := by
  -- A runner that is cut off is not idle, so nothing is begun on it.
  have busy : (system.runners id).phase.isIdle = false := by
    cases phase : (system.runners id).phase with
    | idle =>
      rw [phase] at near
      exact (near trivial).elim
    | _ => rfl
  by_cases own : input.runner = some id
  · cases input with
    | tick => cases own
    | start other call =>
      cases own
      simp [step, busy, crashed]
    | fire other timer =>
      cases own
      cases found : system.timers[timer]? <;> simp [step, found, busy, crashed]
    | proceed other | settle other =>
      cases own
      simp [step, crashed]
    | crash other =>
      cases own
      simp [step, System.withRunner]
  · rw [step_frame definition claimLeaseMs system own]
    exact ⟨crashed, rfl⟩

theorem Stage.ofUndisturbed {pending : List String} {after : System Context}
    (bound : Bound definition steps sagaId (uninterrupted definition steps initialContext) after)
    (begun : sagaId ∉ pending) (alive : (after.runners id).crashed = false)
    (undisturbed : Undisturbed definition steps after.clock after.store sagaId (after.runners id).phase)
    (clear : Clear sagaId (some id) after) :
    Stage definition steps (uninterrupted definition steps initialContext) sagaId
      ⟨after, .recovering (some id) pending⟩ := by
  cases underway : (after.runners id).phase.underway with
  | true => exact .active rfl begun alive underway undisturbed clear
  | false =>
    obtain ⟨record, found, there⟩ := undisturbed.arrived underway
    exact .arrived found (there.symm.trans (bound.stored record found))

theorem Undisturbed.kept {clock clock' : Nat} {store store' : SagaStore Context} {phase : Phase Context}
    (undisturbed : Undisturbed definition steps clock store sagaId phase) (later : clock ≤ clock')
    (row : store' sagaId = store sagaId) : Undisturbed definition steps clock' store' sagaId phase := by
  have undisturbed' := undisturbed.later later
  cases phase with
  | idle => exact undisturbed'
  | _ =>
    simp only [Undisturbed, row] at undisturbed' ⊢
    exact undisturbed'

theorem active_step {pending : List String} (claimLeaseMs : Nat → Nat) (formed : Formed definition system)
    (guided : AllGuided definition steps system) (begun : sagaId ∉ pending)
    (alive : (system.runners id).crashed = false) (underway : (system.runners id).phase.underway = true)
    (undisturbed : Undisturbed definition steps system.clock system.store sagaId (system.runners id).phase)
    (clear : Clear sagaId (some id) system) (input : Input Context) (continues : input.starts = false)
    (bound : Bound definition steps sagaId (uninterrupted definition steps initialContext)
      (step definition claimLeaseMs system input).2) :
    Stage definition steps (uninterrupted definition steps initialContext) sagaId
      ⟨(step definition claimLeaseMs system input).2, .recovering (some id) pending⟩ := by
  by_cases own : input.runner = some id
  · cases input with
    | tick => cases own
    | start => cases continues
    | fire other timer =>
      cases own
      have busy : (system.runners id).phase.isIdle = false := by
        cases phase : (system.runners id).phase with
        | idle => simp [phase, Phase.underway] at underway
        | _ => rfl
      have unmoved : (step definition claimLeaseMs system (.fire id timer)).2 = system := by
        cases found : system.timers[timer]? <;> simp [step, found, busy]
      rw [unmoved]
      exact .active rfl begun alive underway undisturbed clear
    | proceed other =>
      cases own
      have next := proceed_still_undisturbed (claimLeaseMs id) (system.runners id).recovering formed.storeOk
        (formed.sound id) (guided id) undisturbed
      apply Stage.ofUndisturbed bound begun
      · simp [step, alive, System.withRunner]
      · simpa [step, alive, System.withRunner] using next
      · have quiet : (proceed definition (claimLeaseMs id) system.clock (system.runners id).recovering
            system.store (system.runners id).phase).2.2 = none := proceed_unscheduled _ _ underway
        constructor
        · intro other apart
          have different : other ≠ id := fun same => apart (same ▸ rfl)
          simpa [step, alive, System.withRunner, different] using clear.away other apart
        · simpa [step, alive, System.withRunner, quiet] using clear.untimed
    | settle other outcome =>
      cases own
      cases settled : settle system.clock outcome (system.runners id).phase with
      | none =>
        have unmoved : (step definition claimLeaseMs system (.settle id outcome)).2 = system := by
          simp [step, alive, settled]
        rw [unmoved]
        exact .active rfl begun alive underway undisturbed clear
      | some result =>
        obtain ⟨event, phase⟩ := result
        have next := settle_undisturbed undisturbed settled
        apply Stage.ofUndisturbed bound begun
        · simp [step, alive, settled, System.withRunner]
        · simpa [step, alive, settled, System.withRunner] using next
        · simp only [step, alive, settled, Bool.false_eq_true, if_false]
          exact clear.withRunner fun apart => (apart rfl).elim
    | crash other =>
      cases own
      have crashed : ((step definition claimLeaseMs system (.crash id)).2.runners id).crashed = true := by
        simp [step, System.withRunner]
      apply Stage.cutOff crashed
      · simpa [step, System.withRunner] using undisturbed.near formed.storeOk underway
  · obtain ⟨clear', row⟩ := clear.elsewhere claimLeaseMs formed input continues (fun _ same => by
      cases same
      exact own)
    have runner := step_frame definition claimLeaseMs system own
    refine .active rfl begun ?_ ?_ ?_ clear'
    · rw [runner]
      exact alive
    · rw [runner]
      exact underway
    · rw [runner]
      exact undisturbed.kept (step_clock claimLeaseMs input) row

theorem system_stage (claimLeaseMs : Nat → Nat)
    (recovering : Recovering definition steps sagaId initialContext ⟨system, pass⟩) (input : Input Context)
    (continues : pass ≠ .finished → input.starts = false) (repeats : Repeats sagaId initialContext input) :
    Stage definition steps (uninterrupted definition steps initialContext) sagaId
      ⟨(step definition claimLeaseMs system input).2, pass⟩ := by
  obtain ⟨formed, guided, bound, _, stage⟩ := recovering
  cases stage with
  | waiting found unfinished unleased clear queued =>
    have underway : input.starts = false := by
      apply continues
      rintro rfl
      simp at queued
    obtain ⟨clear', row⟩ := clear.elsewhere claimLeaseMs formed input underway (fun _ none => by cases none)
    exact .waiting (row.trans found) unfinished (unleased.later (step_clock claimLeaseMs input)) clear' queued
  | active awaited begun alive underway undisturbed clear =>
    simp only at awaited
    subst awaited
    exact active_step claimLeaseMs formed guided begun alive underway undisturbed clear input
      (continues (by simp)) (bound.step claimLeaseMs formed guided repeats)
  | arrived found there =>
    obtain ⟨record, stored, same⟩ := step_stays claimLeaseMs formed guided bound found there repeats
    exact .arrived stored same
  | cutOff crashed near =>
    obtain ⟨crashed', same⟩ := crashed_stays claimLeaseMs crashed near input
    exact .cutOff crashed' (same ▸ near)

theorem Recovering.turn (claimLeaseMs : Nat → Nat)
    (recovering : Recovering definition steps sagaId initialContext ⟨system, pass⟩) (input : Input Context)
    (continues : pass ≠ .finished → input.starts = false) (answers : Answers steps system input)
    (repeats : Repeats sagaId initialContext input) :
    Recovering definition steps sagaId initialContext
      ⟨(step definition claimLeaseMs system input).2, pass⟩ where
  formed := (step_systemStep claimLeaseMs recovering.formed input).formed recovering.formed
  guided := step_guided claimLeaseMs recovering.formed recovering.guided answers
  bound := recovering.bound.step claimLeaseMs recovering.formed recovering.guided repeats
  distinct := recovering.distinct
  stage := system_stage claimLeaseMs recovering input continues repeats

end Stages

section Pass

variable {definition : SagaDefinition} {steps : String → SagaStep Context} {sagaId : String}
  {initialContext : Context} {startup : Startup Context}

theorem Recovering.listed {sagaIds : List String} {system : System Context}
    (recovering : Recovering definition steps sagaId initialContext ⟨system, .listing⟩)
    (lists : Lists system.store sagaIds) :
    Recovering definition steps sagaId initialContext ⟨system, .recovering none sagaIds⟩ where
  formed := recovering.formed
  guided := recovering.guided
  bound := recovering.bound
  distinct := by
    intro awaited pending same
    cases same
    exact lists.distinct
  stage := by
    cases recovering.stage with
    | waiting found unfinished unleased clear =>
      have queued := (lists.incomplete sagaId).mpr ⟨_, found, unfinished⟩
      exact .waiting found unfinished unleased clear (.inr ⟨none, sagaIds, rfl, queued⟩)
    | active awaited => cases awaited
    | arrived found there => exact .arrived found there
    | cutOff crashed near => exact .cutOff crashed near

theorem unresolved {runner : Runner Context} (alive : runner.crashed = false)
    (underway : runner.phase.underway = true) : runner.resolved = false := by
  cases phase : runner.phase with
  | recovered => simp [phase, Phase.underway] at underway
  | _ => simp [Runner.resolved, alive, phase, Phase.isRecovered]

theorem Recovering.returned {system : System Context} {awaited : Option Nat}
    (recovering : Recovering definition steps sagaId initialContext ⟨system, .recovering awaited []⟩)
    (resolved : (awaited.all fun awaited => (system.runners awaited).resolved) = true) :
    Recovering definition steps sagaId initialContext ⟨system, .finished⟩ where
  formed := recovering.formed
  guided := recovering.guided
  bound := recovering.bound
  distinct := by
    intro awaited pending same
    cases same
  stage := by
    cases recovering.stage with
    | waiting found unfinished unleased clear queued => simp at queued
    | active pass begun alive underway =>
      cases pass
      simp [unresolved alive underway] at resolved
    | arrived found there => exact .arrived found there
    | cutOff crashed near => exact .cutOff crashed near

theorem Recovering.started {system : System Context} {awaited : Option Nat} {next : String}
    {rest : List String} {id : Nat} (claimLeaseMs : Nat → Nat)
    (recovering : Recovering definition steps sagaId initialContext
      ⟨system, .recovering awaited (next :: rest)⟩)
    (resolved : (awaited.all fun awaited => (system.runners awaited).resolved) = true)
    (idle : (system.runners id).phase.isIdle = true) :
    Recovering definition steps sagaId initialContext
      ⟨system.withRunner id (Saga.begin definition system.clock (.recoverOne next)),
        .recovering (some id) rest⟩ := by
  have nodup := recovering.distinct _ _ rfl
  have begun : (step definition claimLeaseMs system (.start id (.recoverOne next))).2 =
      system.withRunner id (Saga.begin definition system.clock (.recoverOne next)) := by
    simp [step, idle]
  have repeats : Repeats sagaId initialContext (.start id (.recoverOne next) : Input Context) := trivial
  have formed' := (step_systemStep claimLeaseMs recovering.formed (.start id (.recoverOne next))).formed
    recovering.formed
  have answers : Answers steps system (.start id (.recoverOne next)) := trivial
  have guided' := step_guided claimLeaseMs recovering.formed recovering.guided answers
  have bound' := recovering.bound.step claimLeaseMs recovering.formed recovering.guided repeats
  rw [begun] at formed' guided' bound'
  refine ⟨formed', guided', bound', ?_, ?_⟩
  · intro other pending same
    cases same
    exact nodup.of_cons
  · cases recovering.stage with
    | waiting found unfinished unleased clear queued =>
      by_cases ours : next = sagaId
      · subst ours
        have own : ((system.withRunner id (Saga.begin definition system.clock (.recoverOne next))).runners id) =
            Saga.begin definition system.clock (.recoverOne next) := by
          simp [System.withRunner]
        refine .active rfl (List.nodup_cons.mp nodup).1 (congrArg Runner.crashed own) ?_ ?_ ?_
        · rw [own]
          rfl
        · rw [own]
          exact ⟨rfl, _, found, unleased⟩
        · apply Clear.withRunner ⟨fun id _ => clear.away id (by simp), clear.untimed⟩
          intro apart
          exact (apart rfl).elim
      · have elsewhere : (Saga.begin definition system.clock (.recoverOne next) : Runner Context).phase.Away
            sagaId := fun _ _ => ours
        have queued' : sagaId ∈ rest := by simpa [Ne.symm ours] using queued
        exact .waiting found unfinished unleased (clear.withRunner fun _ => elsewhere)
          (.inr ⟨some id, rest, rfl, queued'⟩)
    | active pass begun alive underway =>
      cases pass
      simp [unresolved alive underway] at resolved
    | arrived found there =>
      obtain ⟨record, stored, same⟩ := step_stays claimLeaseMs recovering.formed recovering.guided
        recovering.bound found there repeats
      exact .arrived (begun ▸ stored) same
    | cutOff crashed near =>
      obtain ⟨crashed', same⟩ := crashed_stays claimLeaseMs crashed near (.start id (.recoverOne next))
      rw [begun] at crashed' same
      exact .cutOff crashed' (same ▸ near)

variable {contexts : String → Context}

theorem startup_step (claimLeaseMs : Nat → Nat)
    (recovering : Recovering definition steps sagaId (contexts sagaId) startup) (input : StartupInput Context)
    (genuine : input.Genuine steps contexts startup) :
    Recovering definition steps sagaId (contexts sagaId)
      (startupStep definition claimLeaseMs startup input).2 := by
  obtain ⟨system, pass⟩ := startup
  cases input with
  | saga input =>
    simp only [startupStep]
    split
    · exact recovering
    · rename_i served
      apply recovering.turn claimLeaseMs input _ genuine.1 (genuine.2 sagaId)
      intro unfinished
      by_contra starts
      exact served ⟨by simpa using starts, unfinished⟩
  | list sagaIds =>
    cases pass with
    | listing => exact recovering.listed genuine
    | recovering | finished => exact recovering
  | recover id =>
    cases pass with
    | listing | finished => exact recovering
    | recovering awaited pending =>
      simp only [startupStep, Startup.recover]
      split
      · rename_i resolved
        cases pending with
        | nil => exact recovering.returned resolved
        | cons next rest =>
          dsimp only
          split
          · rename_i idle
            exact recovering.started claimLeaseMs resolved idle
          · exact recovering
      · exact recovering

theorem restarted_clear {cut : System Context} : Clear sagaId none cut.restarted where
  away _ _ := trivial
  untimed := by simp [System.restarted]

theorem restarted_recovering {cut : System Context} {record : SagaRecord Context}
    (formed : Formed definition cut)
    (bound : Bound definition steps sagaId (uninterrupted definition steps initialContext) cut)
    (found : cut.store sagaId = some record) (expired : Unleased cut.clock record) :
    Recovering definition steps sagaId initialContext (.begin cut) where
  formed := ⟨formed.storeOk, fun _ => trivial⟩
  guided _ := trivial
  bound := ⟨bound.stored, fun _ => trivial⟩
  distinct := by
    intro awaited pending same
    cases same
  stage := by
    have going := bound.stored record found
    cases status : record.status with
    | running => exact .waiting found (.inl status) expired restarted_clear (.inl rfl)
    | compensating => exact .waiting found (.inr status) expired restarted_clear (.inl rfl)
    | completed | failed =>
      rw [destination, status] at going
      exact .arrived found going

/-- A recovery of the saga that a failure of the store has cut off. -/
def Startup.CutOff (startup : Startup Context) (sagaId : String) : Prop :=
  ∃ id, (startup.system.runners id).crashed = true ∧ ¬ (startup.system.runners id).phase.Away sagaId

/-- After a process has been cut off anywhere and started anew, the pass of `recoverAll` brings every saga on
which no lease is left to where an uninterrupted run of it ends, whatever the runners and the retries do
meanwhile; what it cannot bring there is only what a failure of the store cuts off. -/
theorem recoverAll_recovers (definition : SagaDefinition) (steps : String → SagaStep Context)
    (claimLeaseMs : Nat → Nat) (clock : Nat) (contexts : String → Context) (inputs : List (Input Context))
    (cut : System Context) (interrupted : cut = Run.final (step definition claimLeaseMs) (.initial clock) inputs)
    (answered : Answered definition steps claimLeaseMs (.initial clock) inputs)
    (repeats : ∀ sagaId, ∀ input ∈ inputs, Repeats sagaId (contexts sagaId) input)
    (turns : List (StartupInput Context)) (now : Startup Context)
    (reached : now = Run.final (startupStep definition claimLeaseMs) (.begin cut) turns)
    (genuine : ∀ receipt ∈ Run.history (startupStep definition claimLeaseMs) (.begin cut) turns,
      receipt.input.Genuine steps contexts receipt.before)
    (returned : now.pass = .finished) (sagaId : String) (record : SagaRecord Context)
    (found : cut.store sagaId = some record) (expired : Unleased cut.clock record) :
    (∃ record', now.system.store sagaId = some record' ∧
        record'.position = uninterrupted definition steps (contexts sagaId)) ∨
      now.CutOff sagaId := by
  obtain ⟨formed, _, bound⟩ := run_bound claimLeaseMs (initial_formed definition clock) (initial_guided clock)
    (initial_bound (uninterrupted definition steps (contexts sagaId)) clock) inputs answered (repeats sagaId)
  rw [← interrupted] at formed bound
  have recovering : Recovering definition steps sagaId (contexts sagaId) now := by
    rw [reached]
    clear reached returned
    induction turns with
    | nil => exact restarted_recovering formed bound found expired
    | cons input earlier ih =>
      have before := ih fun receipt member => genuine receipt (List.mem_cons_of_mem _ member)
      exact startup_step claimLeaseMs before input (genuine _ List.mem_cons_self)
  cases recovering.stage with
  | waiting _ _ _ _ queued => simp [returned] at queued
  | active awaited => cases returned.symm.trans awaited
  | arrived stored there => exact .inl ⟨_, stored, there⟩
  | cutOff crashed near => exact .inr ⟨_, crashed, near⟩

end Pass

def refusingSteps (_ : String) : SagaStep Nat where
  action _ := .error "declined"
  compensation reserved _ := .ok reserved

-- The process is cut off when the refusal of a first step has been saved, while the first step of another saga
-- is at work under its lease.
def refusedRun : List (Input Nat) :=
  [ .crash 0, .proceed 0, .settle 0 (.error "declined"), .proceed 0, .proceed 0, .proceed 0, .proceed 0,
    .start 0 (.run "saga" "order" 0),
    .crash 1, .proceed 1, .proceed 1, .proceed 1, .proceed 1, .start 1 (.run "leased" "order" 0) ]

-- The pass gets no further with the leased saga than to a retry.
def refusedTurns : List (StartupInput Nat) :=
  [ .recover 2, .saga (.proceed 1), .saga (.proceed 1), .saga (.proceed 1), .recover 1,
    .saga (.proceed 0), .saga (.proceed 0), .saga (.proceed 0), .saga (.proceed 0), .recover 0,
    .list ["saga", "leased"] ]

def refusedCut : System Nat := Run.final (step sampleDefinition sampleLease) (.initial 0) refusedRun

theorem refusedCut_lists : Lists refusedCut.store ["saga", "leased"] where
  distinct := by decide
  incomplete := by
    intro sagaId
    by_cases first : sagaId = "saga"
    · subst first
      simp only [List.mem_cons, true_or, true_iff]
      exact ⟨_, rfl, by decide⟩
    · by_cases second : sagaId = "leased"
      · subst second
        simp only [List.mem_cons, true_or, or_true, true_iff]
        exact ⟨_, rfl, by decide⟩
      · have absent : refusedCut.store sagaId = none := by
          refine (Function.update_of_ne first _ _).trans ?_
          refine (Function.update_of_ne first _ _).trans ?_
          refine (Function.update_of_ne first _ _).trans ?_
          refine (Function.update_of_ne second _ _).trans ?_
          exact Function.update_of_ne second _ _
        simp [first, second, absent]

theorem recoverAll_recovers_sample : ∃ now : Startup Nat,
    (∃ record', now.system.store "saga" = some record' ∧
        record'.position = uninterrupted sampleDefinition refusingSteps 0) ∨
      now.CutOff "saga" := by
  refine ⟨_, recoverAll_recovers sampleDefinition refusingSteps sampleLease 0 (fun _ => 0) refusedRun refusedCut
    rfl (by decide) ?_ refusedTurns _ rfl ?_ rfl "saga" _ rfl (by decide)⟩
  · simp [refusedRun, Repeats]
  · intro receipt member
    obtain ⟨input, older, within, rfl⟩ := (Run.mem_history _ _).mp member
    simp only [refusedTurns, List.suffix_cons_iff, List.suffix_nil, List.cons.injEq, reduceCtorEq, or_false]
      at within
    rcases within with ⟨rfl, rfl⟩ | ⟨rfl, rfl⟩ | ⟨rfl, rfl⟩ | ⟨rfl, rfl⟩ | ⟨rfl, rfl⟩ | ⟨rfl, rfl⟩ |
      ⟨rfl, rfl⟩ | ⟨rfl, rfl⟩ | ⟨rfl, rfl⟩ | ⟨rfl, rfl⟩ | ⟨rfl, rfl⟩
    · trivial
    · exact ⟨trivial, fun _ => trivial⟩
    · exact ⟨trivial, fun _ => trivial⟩
    · exact ⟨trivial, fun _ => trivial⟩
    · trivial
    · exact ⟨trivial, fun _ => trivial⟩
    · exact ⟨trivial, fun _ => trivial⟩
    · exact ⟨trivial, fun _ => trivial⟩
    · exact ⟨trivial, fun _ => trivial⟩
    · trivial
    · exact refusedCut_lists

end Delego.Saga
