import Delego.Saga.Record

set_option autoImplicit false

namespace Delego.Saga

open Shared

variable {Context : Type} {definition : SagaDefinition} {clock : Nat}
  {store store' : SagaStore Context} {record current draft : SagaRecord Context}
  {phase phase' : Phase Context} {mode : Mode} {stepName : String} {rest remaining : List String}
  {next : Next} {event : Option SagaEvent} {id : Nat}

def Next.afterWork : Next → Bool
  | .again .. | .compensate _ | .abort _ => true
  | .work .. | .finish => false

def Phase.claim : Phase Context → Option (SagaRecord Context)
  | .working _ current _ _ => some current
  | .saving current _ next => if next.afterWork then some current else none
  | _ => none

theorem saving_claim (claim : (Phase.saving current draft next).claim = some record) :
    record = current := by
  simp only [Phase.claim] at claim
  split at claim
  · cases claim
    rfl
  · cases claim

/-- What comes of the work on a step, and the save it leads to. -/
inductive Settles (current : SagaRecord Context) (stepName : String) (rest : List String) :
    Mode → SagaWork → Next → SagaRecord Context → Prop
  | acted (context : Context) (now : Nat) :
      Settles current stepName rest .advancing .acted (.again .advancing rest)
        (current.acted stepName context now)
  | rejected (message : String) (now : Nat) :
      Settles current stepName rest .advancing .rejected (.compensate message)
        (current.rejected message now)
  | compensated (error : String) (context : Context) (now : Nat) :
      Settles current stepName rest (.compensating error) .compensated
        (.again (.compensating error) rest) (current.compensated stepName context now)
  | compensationRejected (error message : String) (now : Nat) :
      Settles current stepName rest (.compensating error) .compensationRejected (.abort message)
        (current.released now)

theorem Settles.afterWork {work : SagaWork}
    (settles : Settles current stepName rest mode work next draft) : next.afterWork = true := by
  cases settles <;> rfl

theorem Settles.sagaId {work : SagaWork}
    (settles : Settles current stepName rest mode work next draft) :
    draft.sagaId = current.sagaId := by
  cases settles <;> rfl

theorem Settles.write {work : SagaWork}
    (settles : Settles current stepName rest mode work next draft)
    (ahead : Ahead definition current (stepName :: rest) mode)
    (claimed : Claimed current stepName) : Write definition clock current next draft := by
  cases settles with
  | acted => exact .acted ahead claimed
  | rejected => exact .rejected ahead claimed
  | compensated => exact .compensated ahead claimed
  | compensationRejected => exact .released ahead claimed

inductive RunnerStep (definition : SagaDefinition) (clock : Nat) (store : SagaStore Context) :
    Phase Context → Option SagaEvent → SagaStore Context → Phase Context → Prop
  | quiet {phase phase' : Phase Context} (before : phase.claim = none) (after : phase'.claim = none)
      (sound : Sound definition clock store phase') :
      RunnerStep definition clock store phase none store phase'
  | waiting {phase : Phase Context} (sound : Sound definition clock store phase) :
      RunnerStep definition clock store phase none store phase
  | created (record : SagaRecord Context) {phase' : Phase Context}
      (absent : store record.sagaId = none) (running : record.status = .running)
      (nothing : record.completedSteps = []) (after : phase'.claim = none)
      (sound : Sound definition clock (Function.update store record.sagaId (some record)) phase')
      {named : SagaRecord Context} :
      RunnerStep definition clock store (.creating named) none
        (Function.update store record.sagaId (some record)) phase'
  | lost {current draft : SagaRecord Context} {next : Next}
      (stale : store current.sagaId ≠ some current) :
      RunnerStep definition clock store (.saving current draft next) none store (lost current next)
  | saved {current draft : SagaRecord Context} {next : Next}
      (found : store current.sagaId = some current)
      (write : Write definition clock current next draft) :
      RunnerStep definition clock store (.saving current draft next) none
        (Function.update store current.sagaId (some draft.bumped)) (stored draft.bumped next)
  | settled {mode : Mode} {current draft : SagaRecord Context} {stepName : String}
      {rest : List String} {work : SagaWork} {next : Next}
      (ahead : Ahead definition current (stepName :: rest) mode)
      (claimed : Claimed current stepName)
      (settles : Settles current stepName rest mode work next draft)
      (copied : Copied SagaRecord.version (store current.sagaId) current) :
      RunnerStep definition clock store (.working mode current stepName rest)
        (some ⟨current.sagaId, stepName, work⟩) store (.saving current draft next)

structure StoreOk (definition : SagaDefinition) (store : SagaStore Context) : Prop where
  keyed : ∀ sagaId record, store sagaId = some record → record.sagaId = sagaId
  ok : ∀ sagaId record, store sagaId = some record → RecordOk definition record

theorem enter_claim (record : SagaRecord Context) : (enter definition record).claim = none := by
  unfold enter advance compensate
  split
  · rfl
  · split <;> rfl

theorem enter_sound (held : store record.sagaId = some record) (ok : RecordOk definition record) :
    Sound definition clock store (enter definition record) := by
  rcases enter_ahead ok with settled | ⟨mode, remaining, looping, ahead⟩
  · rw [settled]
    trivial
  · rw [looping]
    exact ⟨held ▸ Copied.here SagaRecord.version record, ahead⟩

theorem free_of_not_leased (free : ¬ leased clock current stepName) : Free clock current stepName := by
  intro claimExpiresAt same claim
  refine Nat.le_of_not_lt fun live => free ⟨same, claimExpiresAt, claim, live⟩

theorem loop_quiet (sound : Sound definition clock store (.looping mode current remaining)) :
    (loop definition clock mode current remaining).claim = none ∧
      Sound definition clock store (loop definition clock mode current remaining) := by
  obtain ⟨copied, ahead⟩ := sound
  cases remaining with
  | nil =>
    cases mode with
    | advancing => exact ⟨rfl, copied, .completed ahead⟩
    | compensating error => exact ⟨rfl, copied, .failed ahead⟩
  | cons stepName rest =>
    have known := ahead.known
    by_cases live : leased clock current stepName
    · simp [loop, known, live, Phase.claim, Sound]
    · simp only [loop, known, not_true, if_false, live]
      exact ⟨rfl, copied, ahead, free_of_not_leased live⟩

theorem lost_claim : (lost current next).claim = none := by
  cases next <;> rfl

theorem lost_sound : Sound definition clock store (lost current next) := by
  cases next <;> trivial

theorem save_current (sameId : draft.sagaId = current.sagaId)
    (sameVersion : draft.version = current.version) (found : store current.sagaId = some current) :
    store.save draft =
      some (draft.bumped, Function.update store current.sagaId (some draft.bumped)) := by
  simp [SagaStore.save, sameId, found, sameVersion, SagaRecord.bumped]

theorem save_stale (sameId : draft.sagaId = current.sagaId)
    (sameVersion : draft.version = current.version)
    (copied : Copied SagaRecord.version (store current.sagaId) current)
    (stale : store current.sagaId ≠ some current) : store.save draft = none := by
  obtain ⟨held, found, older⟩ := copied.stale stale
  rw [← sameVersion] at older
  simp [SagaStore.save, sameId, found, older]

theorem proceed_step (definition : SagaDefinition) (claimLeaseMs clock : Nat) (recovering : Bool)
    (formed : StoreOk definition store) (sound : Sound definition clock store phase) :
    RunnerStep definition clock store phase none
      (proceed definition claimLeaseMs clock recovering store phase).1
      (proceed definition claimLeaseMs clock recovering store phase).2.1 := by
  cases phase with
  | idle => exact .quiet rfl rfl trivial
  | creating record =>
    cases held : store record.sagaId with
    | some existing =>
      have same := formed.keyed _ _ held
      simp only [proceed, SagaStore.createIfNotExists, held]
      exact .quiet rfl (enter_claim existing) (enter_sound (same ▸ held) (formed.ok _ _ held))
    | none =>
      simp only [proceed, SagaStore.createIfNotExists, held]
      have ok : RecordOk definition { record with version := 0 } :=
        { ordered := sound.2 ▸ List.nil_prefix
          all := fun other => by cases sound.1.symm.trans other
          none := fun other => by cases sound.1.symm.trans other }
      exact .created { record with version := 0 } held sound.1 sound.2 (enter_claim _)
        (enter_sound (Function.update_self ..) ok)
  | loading sagaId =>
    cases held : store sagaId with
    | some record =>
      have same := formed.keyed _ _ held
      simp only [proceed, SagaStore.get, held]
      exact .quiet rfl (enter_claim record) (enter_sound (same ▸ held) (formed.ok _ _ held))
    | none =>
      simp only [proceed, SagaStore.get, held]
      exact .quiet rfl rfl trivial
  | looping mode current remaining =>
    obtain ⟨claim, next⟩ := loop_quiet sound
    exact .quiet rfl claim next
  | claiming mode current stepName rest =>
    exact .quiet rfl rfl ⟨sound.1, .claim sound.2.1 sound.2.2⟩
  | working => exact .waiting sound
  | saving current draft next =>
    obtain ⟨copied, write⟩ := sound
    by_cases found : store current.sagaId = some current
    · simp only [proceed, save_current write.sagaId write.version found]
      exact .saved found write
    · simp only [proceed, save_stale write.sagaId write.version copied found]
      exact .lost found
  | settled result =>
    cases result with
    | error message =>
      cases recovering <;> exact .quiet rfl rfl trivial
    | ok record =>
      cases recovering with
      | false => exact .quiet rfl rfl trivial
      | true =>
        by_cases again : incomplete record ∧ record.claimExpiresAt = none
        · simp only [proceed, again]
          exact .quiet rfl rfl trivial
        · simp only [proceed, again]
          exact .quiet rfl rfl trivial
  | rereading sagaId =>
    cases held : store sagaId with
    | some record =>
      simp only [proceed, SagaStore.get, held]
      exact .quiet rfl rfl trivial
    | none =>
      simp only [proceed, SagaStore.get, held]
      exact .quiet rfl rfl trivial
  | rescheduling latest => exact .quiet rfl rfl trivial
  | recovered => exact .quiet rfl rfl trivial

theorem settle_step {outcome : Except String Context} {work : SagaEvent}
    (sound : Sound definition clock store phase)
    (settled : settle clock outcome phase = some (work, phase')) :
    RunnerStep definition clock store phase (some work) store phase' := by
  cases phase with
  | working mode current stepName rest =>
    obtain ⟨copied, ahead, claimed⟩ := sound
    cases mode with
    | advancing =>
      cases outcome <;> cases settled
      · exact .settled ahead claimed (.rejected _ _) copied
      · exact .settled ahead claimed (.acted _ _) copied
    | compensating error =>
      cases outcome <;> cases settled
      · exact .settled ahead claimed (.compensationRejected error _ _) copied
      · exact .settled ahead claimed (.compensated error _ _) copied
  | idle | creating | loading | looping | claiming | saving | settled | rereading | rescheduling
  | recovered => cases settled

/-- What a step of one runner can do to the slots of the store. -/
inductive StoreStep (definition : SagaDefinition) (store : SagaStore Context) :
    SagaStore Context → Prop
  | unchanged : StoreStep definition store store
  | created (record : SagaRecord Context) (absent : store record.sagaId = none)
      (running : record.status = .running) (nothing : record.completedSteps = []) :
      StoreStep definition store (Function.update store record.sagaId (some record))
  | saved {clock : Nat} {current draft : SagaRecord Context} {next : Next}
      (found : store current.sagaId = some current)
      (write : Write definition clock current next draft) :
      StoreStep definition store (Function.update store current.sagaId (some draft.bumped))

theorem RunnerStep.storeStep (step : RunnerStep definition clock store phase event store' phase') :
    StoreStep definition store store' := by
  cases step with
  | quiet | waiting | lost | settled => exact .unchanged
  | created record absent running nothing => exact .created record absent running nothing
  | saved found write => exact .saved found write

/-- A turn either keeps every stored record and takes no claim, or it has a save accepted. -/
theorem RunnerStep.kept_or_saved
    (turn : RunnerStep definition clock store phase event store' phase') :
    ((∀ record, phase'.claim = some record → phase.claim = some record) ∧
        ∀ sagaId, store sagaId ≠ none → store' sagaId = store sagaId) ∨
      ∃ current draft next, phase = .saving current draft next ∧
        store current.sagaId = some current ∧ Write definition clock current next draft ∧
        store' = Function.update store current.sagaId (some draft.bumped) ∧
        phase' = stored draft.bumped next := by
  cases turn with
  | quiet _ after =>
    refine .inl ⟨?_, fun _ _ => rfl⟩
    intro record claim
    cases after.symm.trans claim
  | waiting => exact .inl ⟨fun _ claim => claim, fun _ _ => rfl⟩
  | created record absent _ _ after =>
    refine .inl ⟨?_, ?_⟩
    · intro other claim
      cases after.symm.trans claim
    · intro sagaId present
      refine Function.update_of_ne ?_ ..
      rintro rfl
      exact present absent
  | lost =>
    refine .inl ⟨?_, fun _ _ => rfl⟩
    intro record claim
    cases lost_claim.symm.trans claim
  | saved found write => exact .inr ⟨_, _, _, rfl, found, write, rfl, rfl⟩
  | settled _ _ settles =>
    refine .inl ⟨?_, fun _ _ => rfl⟩
    intro record claim
    simpa [Phase.claim, settles.afterWork] using claim

theorem RunnerStep.sound (step : RunnerStep definition clock store phase event store' phase') :
    Sound definition clock store' phase' := by
  cases step with
  | quiet _ _ sound | waiting sound | created _ _ _ _ _ sound => exact sound
  | lost => exact lost_sound
  | saved found write =>
    apply write.stored_sound
    rw [write.sagaId]
    exact Function.update_self ..
  | settled ahead claimed settles copied => exact ⟨copied, settles.write ahead claimed⟩

theorem StoreStep.slot (step : StoreStep definition store store') (sagaId : String) :
    store' sagaId = store sagaId ∨
      (∃ record, store sagaId = none ∧ store' sagaId = some record ∧ record.sagaId = sagaId ∧
        record.status = .running ∧ record.completedSteps = []) ∨
      ∃ clock current draft next, store sagaId = some current ∧ current.sagaId = sagaId ∧
        store' sagaId = some draft.bumped ∧ Write definition clock current next draft := by
  cases step with
  | unchanged => exact .inl rfl
  | created record absent running nothing =>
    by_cases same : sagaId = record.sagaId
    · subst same
      exact .inr (.inl ⟨record, absent, Function.update_self .., rfl, running, nothing⟩)
    · exact .inl (Function.update_of_ne same ..)
  | @saved clock current draft next found write =>
    by_cases same : sagaId = current.sagaId
    · subst same
      exact .inr (.inr ⟨clock, current, draft, next, found, rfl, Function.update_self .., write⟩)
    · exact .inl (Function.update_of_ne same ..)

theorem StoreStep.grows (step : StoreStep definition store store') (sagaId : String) :
    Grows SagaRecord.version (store sagaId) (store' sagaId) := by
  rcases step.slot sagaId with same | ⟨_, absent, _⟩ | ⟨_, current, draft, _, found, _, saved, write⟩
  · rw [same]
    exact .refl _ _
  · rw [absent]
    exact .of_none _
  · rw [found, saved]
    apply Grows.of_some
    rw [SagaRecord.bumped, write.version]
    exact Nat.lt_succ_self _

theorem StoreStep.storeOk (step : StoreStep definition store store') (ok : StoreOk definition store) :
    StoreOk definition store' := by
  constructor
  case keyed =>
    intro sagaId record found
    rcases step.slot sagaId with same | ⟨_, _, created, named, _⟩ |
      ⟨_, current, draft, _, _, named, saved, write⟩
    · exact ok.keyed sagaId record (same ▸ found)
    · cases created.symm.trans found
      exact named
    · cases saved.symm.trans found
      exact write.sagaId.trans named
  case ok =>
    intro sagaId record found
    rcases step.slot sagaId with same | ⟨_, _, created, _, running, nothing⟩ |
      ⟨_, _, _, _, _, _, saved, write⟩
    · exact ok.ok sagaId record (same ▸ found)
    · cases created.symm.trans found
      exact
        { ordered := nothing ▸ List.nil_prefix
          all := fun other => by cases running.symm.trans other
          none := fun _ => nothing }
    · cases saved.symm.trans found
      exact write.recordOk

structure Formed (definition : SagaDefinition) (system : System Context) : Prop where
  storeOk : StoreOk definition system.store
  sound : ∀ id, Sound definition system.clock system.store (system.runners id).phase

/-- A step of the whole system: one turn of one runner, or nothing but time and crashes. -/
inductive SystemStep (definition : SagaDefinition) (before : System Context) :
    Option SagaEvent → System Context → Prop
  | elsewhere {after : System Context} (store : after.store = before.store)
      (later : before.clock ≤ after.clock)
      (phases : ∀ id, (after.runners id).phase = (before.runners id).phase) :
      SystemStep definition before none after
  | ran {event : Option SagaEvent} {after : System Context} (id : Nat)
      (clock : after.clock = before.clock)
      (others : ∀ other, other ≠ id → after.runners other = before.runners other)
      (turn : RunnerStep definition before.clock before.store (before.runners id).phase event
        after.store (after.runners id).phase) :
      SystemStep definition before event after

theorem begin_quiet (definition : SagaDefinition) (call : SagaCall Context) :
    (begin definition clock call).phase.claim = none ∧
      Sound definition clock store (begin definition clock call).phase := by
  cases call with
  | run => exact ⟨rfl, rfl, rfl⟩
  | resume | recoverOne => exact ⟨rfl, trivial⟩

theorem isIdle_claim (idle : phase.isIdle = true) : phase.claim = none := by
  cases phase <;> first | rfl | cases idle

theorem ignored (definition : SagaDefinition) (system : System Context) :
    SystemStep definition system none system :=
  .elsewhere rfl (Nat.le_refl _) fun _ => rfl

theorem started {system after : System Context} {id : Nat} {call : SagaCall Context}
    (idle : (system.runners id).phase.isIdle = true) (clock : after.clock = system.clock)
    (store : after.store = system.store)
    (runners : after.runners =
      Function.update system.runners id (begin definition system.clock call)) :
    SystemStep definition system none after := by
  obtain ⟨claim, sound⟩ := begin_quiet definition call
  refine .ran id clock ?_ ?_
  · intro other different
    rw [runners, Function.update_of_ne different]
  · rw [runners, Function.update_self, store]
    exact .quiet (isIdle_claim idle) claim sound

theorem step_systemStep {system : System Context} (claimLeaseMs : Nat → Nat)
    (formed : Formed definition system) (input : Input Context) :
    SystemStep definition system (step definition claimLeaseMs system input).1
      (step definition claimLeaseMs system input).2 := by
  cases input with
  | tick elapsedMs => exact .elsewhere rfl (Nat.le_add_right ..) fun _ => rfl
  | start id call =>
    by_cases idle : (system.runners id).phase.isIdle = true
    · simp only [step, idle]
      exact started idle rfl rfl rfl
    · simp only [step, idle]
      exact ignored definition system
  | fire id timer =>
    cases found : system.timers[timer]? with
    | none =>
      simp only [step, found]
      exact ignored definition system
    | some retry =>
      by_cases ready : (system.runners id).phase.isIdle = true ∧ retry.due ≤ system.clock
      · simp only [step, found, ready]
        exact started ready.1 rfl rfl rfl
      · simp only [step, found, ready]
        exact ignored definition system
  | proceed id =>
    cases crashed : (system.runners id).crashed with
    | true =>
      simp only [step, crashed]
      exact ignored definition system
    | false =>
      simp only [step, crashed, Bool.false_eq_true, if_false]
      refine .ran id rfl ?_ ?_
      · intro other different
        exact Function.update_of_ne different ..
      · simp only [System.withRunner, Function.update_self]
        exact proceed_step definition _ _ _ formed.storeOk (formed.sound id)
  | settle id outcome =>
    cases crashed : (system.runners id).crashed with
    | true =>
      simp only [step, crashed]
      exact ignored definition system
    | false =>
      cases settled : settle system.clock outcome (system.runners id).phase with
      | none =>
        simp only [step, crashed, settled]
        exact ignored definition system
      | some result =>
        simp only [step, crashed, Bool.false_eq_true, if_false, settled]
        refine .ran id rfl ?_ ?_
        · intro other different
          exact Function.update_of_ne different ..
        · simp only [System.withRunner, Function.update_self]
          exact settle_step (formed.sound id) settled
  | crash id =>
    refine .elsewhere rfl (Nat.le_refl _) ?_
    intro other
    by_cases same : other = id
    · subst same
      simp [step, System.withRunner]
    · simp [step, System.withRunner, same]

theorem SystemStep.storeStep {before after : System Context}
    (turn : SystemStep definition before event after) :
    StoreStep definition before.store after.store := by
  cases turn with
  | elsewhere store =>
    rw [store]
    exact .unchanged
  | ran id _ _ turn => exact turn.storeStep

theorem SystemStep.formed {before after : System Context}
    (turn : SystemStep definition before event after) (formed : Formed definition before) :
    Formed definition after := by
  have grows := turn.storeStep.grows
  have storeOk := turn.storeStep.storeOk formed.storeOk
  cases turn with
  | elsewhere store later phases =>
    refine ⟨storeOk, ?_⟩
    intro id
    rw [phases id]
    exact (formed.sound id).later later grows
  | ran id clock others turn =>
    refine ⟨storeOk, ?_⟩
    intro other
    by_cases same : other = id
    · rw [same, clock]
      exact turn.sound
    · rw [others other same, clock]
      exact (formed.sound other).later (Nat.le_refl _) grows

abbrev SagaReceipt (Context : Type) := Receipt (System Context) (Input Context) (Option SagaEvent)

section Runs

variable (definition : SagaDefinition) (claimLeaseMs : Nat → Nat) (clock : Nat)

-- The run of any number of runners from an empty store, newest input first.
def final (inputs : List (Input Context)) : System Context :=
  Run.final (step definition claimLeaseMs) (.initial clock) inputs

def history (inputs : List (Input Context)) : List (SagaReceipt Context) :=
  Run.history (step definition claimLeaseMs) (.initial clock) inputs

theorem initial_formed : Formed definition (.initial clock : System Context) where
  storeOk :=
    { keyed := fun _ _ found => by cases found
      ok := fun _ _ found => by cases found }
  sound _ := trivial

theorem final_formed (inputs : List (Input Context)) :
    Formed definition (final definition claimLeaseMs clock inputs) := by
  induction inputs with
  | nil => exact initial_formed definition clock
  | cons input earlier ih => exact (step_systemStep claimLeaseMs ih input).formed ih

end Runs

def Input.runner : Input Context → Option Nat
  | .tick _ => none
  | .start id _ | .fire id _ | .proceed id | .settle id _ | .crash id => some id

theorem step_frame (definition : SagaDefinition) (claimLeaseMs : Nat → Nat)
    (system : System Context) {input : Input Context} (elsewhere : input.runner ≠ some id) :
    (step definition claimLeaseMs system input).2.runners id = system.runners id := by
  cases input with
  | tick => rfl
  | start other | fire other | proceed other | settle other | crash other =>
    have different : id ≠ other := fun same => elsewhere (same ▸ rfl)
    simp only [step]
    repeat' split
    all_goals first | rfl | exact Function.update_of_ne different ..

theorem final_untouched (definition : SagaDefinition) (claimLeaseMs : Nat → Nat) (clock : Nat)
    (inputs : List (Input Context)) (untouched : ∀ input ∈ inputs, input.runner ≠ some id) :
    (final definition claimLeaseMs clock inputs).runners id = .idle := by
  induction inputs with
  | nil => rfl
  | cons input earlier ih =>
    rw [← ih fun other member => untouched other (List.mem_cons_of_mem _ member)]
    exact step_frame definition claimLeaseMs _ (untouched input List.mem_cons_self)

def sampleDefinition : SagaDefinition where
  stepOrder := ["reserve", "pay"]
  nonempty := by
    decide
  distinct := by
    decide

-- Runner 0 works on the saga, and its second step is refused; runner 1 finds the first step leased.
def sampleInputs : List (Input Unit) :=
  [ .start 0 (.run "saga" "order" ()), .proceed 0, .proceed 0, .proceed 0, .proceed 0,
    .start 1 (.recoverOne "saga"), .proceed 1, .proceed 1, .proceed 1, .tick 100,
    .settle 0 (.ok ()), .proceed 0, .proceed 0, .proceed 0, .proceed 0,
    .settle 0 (.error "declined"), .proceed 0, .proceed 0, .proceed 0, .proceed 0,
    .tick 200, .settle 0 (.ok ()), .proceed 0, .proceed 0, .proceed 0 ].reverse

def sampleLease : Nat → Nat := fun _ => 30000

end Delego.Saga
