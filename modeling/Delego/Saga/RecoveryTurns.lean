import Delego.Saga.Recovery

set_option autoImplicit false

namespace Delego.Saga

open Shared

variable {Context : Type} {definition : SagaDefinition} {clock : Nat} {store : SagaStore Context}
  {phase : Phase Context} {system : System Context} {startup : Startup Context} {id : Nat}

def Phase.waits : Phase Context → Bool
  | .working .. => true
  | _ => false

theorem proceed_nearer (claimLeaseMs : Nat) (formed : StoreOk definition store)
    (sound : Sound definition clock store phase) (begun : phase.isIdle = false)
    (free : phase.waits = false) (unresolved : phase.isRecovered = false) :
    (proceed definition claimLeaseMs clock true store phase).2.1.turns definition < phase.turns definition := by
  cases phase with
  | idle => cases begun
  | working => cases free
  | recovered => cases unresolved
  | creating record =>
    cases found : store record.sagaId with
    | some held =>
      simp only [proceed, SagaStore.createIfNotExists, found]
      exact enter_turns (formed.ok _ held found)
    | none =>
      have ok : RecordOk definition { record with version := 0 } :=
        { ordered := sound.2 ▸ List.nil_prefix
          all := fun other => by cases sound.1.symm.trans other
          none := fun other => by cases sound.1.symm.trans other }
      simp only [proceed, SagaStore.createIfNotExists, found]
      exact enter_turns ok
  | loading named =>
    cases found : store named with
    | some held =>
      simp only [proceed, SagaStore.get, found]
      exact enter_turns (formed.ok _ held found)
    | none =>
      simp only [proceed, SagaStore.get, found, Phase.turns]
      omega
  | looping mode current remaining => exact loop_turns sound
  | claiming mode current stepName rest =>
    cases mode <;> simp only [proceed, Phase.turns, Mode.turns, SagaRecord.claimed] <;> omega
  | saving current draft next =>
    obtain ⟨copied, write⟩ := sound
    by_cases found : store current.sagaId = some current
    · simp only [proceed, save_current write.sagaId write.version found]
      exact saved_turns
    · simp only [proceed, save_stale write.sagaId write.version copied found]
      exact lost_turns
  | settled result =>
    cases result with
    | error message => simp [proceed, Phase.turns]
    | ok record =>
      by_cases again : incomplete record ∧ record.claimExpiresAt = none <;>
        simp [proceed, again, Phase.turns]
  | rereading named =>
    cases held : store.get named <;> simp [proceed, held, Phase.turns]
  | rescheduling latest => exact Nat.zero_lt_one

def Input.advances (system : System Context) (id : Nat) : Input Context → Bool
  | .proceed other => other = id && !(system.runners id).phase.waits
  | .settle other _ => other = id && (system.runners id).phase.waits
  | _ => false

def StartupInput.advances (startup : Startup Context) : StartupInput Context → Bool
  | .list _ => startup.pass = .listing
  | .recover id =>
    match startup.pass with
    | .recovering awaited pending =>
      (awaited.all fun awaited => (startup.system.runners awaited).resolved) &&
        (pending.isEmpty || (startup.system.runners id).phase.isIdle)
    | _ => false
  | .saga input =>
    match startup.pass with
    | .recovering (some awaited) _ =>
      !(startup.system.runners awaited).resolved && input.advances startup.system awaited
    | _ => false

def Runner.remaining (definition : SagaDefinition) (runner : Runner Context) : Nat :=
  if runner.resolved then 0 else runner.phase.turns definition

def Startup.remaining (definition : SagaDefinition) (startup : Startup Context) : Nat :=
  match startup.pass with
  | .listing | .finished => 0
  | .recovering awaited pending =>
    (awaited.map fun awaited => (startup.system.runners awaited).remaining definition).getD 0 +
      pending.length * (10 * definition.stepOrder.length + 7) + 1

theorem enter_busy (record : SagaRecord Context) : (enter definition record).isIdle = false := by
  unfold enter advance compensate
  repeat' split
  all_goals rfl

theorem loop_busy (mode : Mode) (current : SagaRecord Context) (remaining : List String) :
    (loop definition clock mode current remaining).isIdle = false := by
  unfold loop
  repeat' split
  all_goals rfl

theorem proceed_busy (claimLeaseMs : Nat) (recovering : Bool) (begun : phase.isIdle = false) :
    (proceed definition claimLeaseMs clock recovering store phase).2.1.isIdle = false := by
  cases phase with
  | idle => cases begun
  | creating record => exact enter_busy _
  | loading named =>
    cases held : store.get named with
    | none => simp [proceed, held, Phase.isIdle]
    | some record => simpa [proceed, held] using enter_busy record
  | looping mode current remaining => exact loop_busy mode current remaining
  | saving current draft next =>
    cases saved : store.save draft <;> cases next <;> simp [proceed, saved, lost, stored, compensate, Phase.isIdle]
  | settled result =>
    cases result <;> cases recovering <;> simp only [proceed, if_true] <;> repeat' split
    all_goals rfl
  | rereading named => cases held : store.get named <;> simp [proceed, held, Phase.isIdle]
  | claiming | working | rescheduling | recovered => rfl

theorem settle_busy {outcome : Except String Context} {event : SagaEvent} {phase' : Phase Context}
    (settled : settle clock outcome phase = some (event, phase')) : phase'.isIdle = false := by
  cases phase with
  | working mode current stepName rest => cases mode <;> cases outcome <;> cases settled <;> rfl
  | _ => cases settled

structure Runner.Recovers (runner : Runner Context) : Prop where
  recovering : runner.recovering = true
  begun : runner.phase.isIdle = false

/-- No turn takes a recovery back, and each of its own takes it on. -/
structure Nearer (definition : SagaDefinition) (system : System Context) (id : Nat) (input : Input Context)
    (after : Runner Context) : Prop where
  recovers : after.Recovers
  within : after.remaining definition ≤ (system.runners id).remaining definition
  less : (system.runners id).resolved = false → input.advances system id = true →
    after.remaining definition < (system.runners id).remaining definition

theorem Runner.Recovers.unmoved (recovers : (system.runners id).Recovers) {input : Input Context}
    (still : (system.runners id).resolved = true ∨ input.advances system id = false) :
    Nearer definition system id input (system.runners id) where
  recovers := recovers
  within := Nat.le_refl _
  less unresolved advances := by
    rcases still with resolved | idle
    · cases resolved.symm.trans unresolved
    · cases idle.symm.trans advances

theorem Runner.remaining_le (runner : Runner Context) :
    runner.remaining definition ≤ runner.phase.turns definition := by
  unfold Runner.remaining
  split
  · exact Nat.zero_le _
  · exact Nat.le_refl _

theorem Runner.Recovers.moved (recovers : (system.runners id).Recovers) {input : Input Context}
    {phase : Phase Context} (begun : phase.isIdle = false) (unresolved : (system.runners id).resolved = false)
    (fewer : phase.turns definition < (system.runners id).phase.turns definition) :
    Nearer definition system id input { system.runners id with phase } := by
  have before : (system.runners id).remaining definition = (system.runners id).phase.turns definition := by
    simp [Runner.remaining, unresolved]
  have after : Runner.remaining definition { system.runners id with phase } ≤ phase.turns definition :=
    Runner.remaining_le _
  have less := after.trans_lt fewer
  rw [← before] at less
  exact ⟨⟨recovers.recovering, begun⟩, less.le, fun _ _ => less⟩

theorem own_nearer (claimLeaseMs : Nat → Nat) (formed : Formed definition system)
    (recovers : (system.runners id).Recovers) (input : Input Context) (own : input.runner = some id) :
    Nearer definition system id input ((step definition claimLeaseMs system input).2.runners id) := by
  have busy := recovers.begun
  cases input with
  | tick => cases own
  | start other call =>
    cases own
    simp only [step, busy, Bool.false_eq_true, if_false]
    exact recovers.unmoved (.inr rfl)
  | fire other timer =>
    cases own
    have unmoved : (step definition claimLeaseMs system (.fire id timer)).2 = system := by
      cases found : system.timers[timer]? <;> simp [step, found, busy]
    rw [unmoved]
    exact recovers.unmoved (.inr rfl)
  | crash other =>
    cases own
    simp only [step, System.withRunner, Function.update_self]
    have ended : Runner.remaining definition { system.runners id with crashed := true } = 0 := by
      simp [Runner.remaining, Runner.resolved]
    exact ⟨⟨recovers.recovering, busy⟩, ended ▸ Nat.zero_le _, fun _ advances => by cases advances⟩
  | proceed other =>
    cases own
    cases alive : (system.runners id).crashed with
    | true =>
      simp only [step, alive, if_true]
      exact recovers.unmoved (.inl (by simp [Runner.resolved, alive]))
    | false =>
      by_cases still : (system.runners id).phase.waits = true ∨ (system.runners id).phase.isRecovered = true
      · have unmoved : (step definition claimLeaseMs system (.proceed id)).2.runners id = system.runners id := by
          have waited : (proceed definition (claimLeaseMs id) system.clock (system.runners id).recovering
              system.store (system.runners id).phase).2.1 = (system.runners id).phase := by
            cases phase : (system.runners id).phase with
            | working | recovered => rfl
            | _ => simp [phase, Phase.waits, Phase.isRecovered] at still
          simp only [step, alive, Bool.false_eq_true, if_false, System.withRunner, Function.update_self, waited]
          rw [← alive]
        rw [unmoved]
        apply recovers.unmoved
        rcases still with waits | recovered
        · exact .inr (by simp [Input.advances, waits])
        · exact .inl (by simp [Runner.resolved, recovered])
      · simp only [not_or, Bool.not_eq_true] at still
        have fewer := proceed_nearer (claimLeaseMs id) formed.storeOk (formed.sound id) busy still.1 still.2
        have unresolved : (system.runners id).resolved = false := by
          simp [Runner.resolved, alive, still.2]
        have after : (step definition claimLeaseMs system (.proceed id)).2.runners id =
            { system.runners id with
              phase := (proceed definition (claimLeaseMs id) system.clock true system.store
                (system.runners id).phase).2.1 } := by
          simp [step, alive, System.withRunner, recovers.recovering]
        rw [after]
        exact recovers.moved (proceed_busy _ _ busy) unresolved fewer
  | settle other outcome =>
    cases own
    cases alive : (system.runners id).crashed with
    | true =>
      simp only [step, alive, if_true]
      exact recovers.unmoved (.inl (by simp [Runner.resolved, alive]))
    | false =>
      cases settled : settle system.clock outcome (system.runners id).phase with
      | none =>
        simp only [step, alive, settled, Bool.false_eq_true, if_false]
        apply recovers.unmoved
        right
        cases phase : (system.runners id).phase with
        | working mode =>
          rw [phase] at settled
          cases mode <;> cases outcome <;> cases settled
        | _ => simp [Input.advances, phase, Phase.waits]
      | some result =>
        obtain ⟨event, phase'⟩ := result
        have unresolved : (system.runners id).resolved = false := by
          cases phase : (system.runners id).phase with
          | recovered =>
            rw [phase] at settled
            cases settled
          | _ => simp [Runner.resolved, alive, phase, Phase.isRecovered]
        have after : (step definition claimLeaseMs system (.settle id outcome)).2.runners id =
            { system.runners id with phase := phase' } := by
          simp [step, alive, settled, System.withRunner]
        rw [after]
        exact recovers.moved (settle_busy settled) unresolved (settle_turns settled)

theorem step_nearer (claimLeaseMs : Nat → Nat) (formed : Formed definition system)
    (recovers : (system.runners id).Recovers) (input : Input Context) :
    Nearer definition system id input ((step definition claimLeaseMs system input).2.runners id) := by
  by_cases own : input.runner = some id
  · exact own_nearer claimLeaseMs formed recovers input own
  · rw [step_frame definition claimLeaseMs system own]
    apply recovers.unmoved
    right
    cases input with
    | proceed other | settle other =>
      have apart : other ≠ id := fun same => own (congrArg some same)
      simp [Input.advances, apart]
    | tick | start | fire | crash => rfl

structure Awaiting (definition : SagaDefinition) (startup : Startup Context) : Prop where
  formed : Formed definition startup.system
  listed : startup.pass ≠ .listing
  awaited : ∀ id pending, startup.pass = .recovering (some id) pending → (startup.system.runners id).Recovers

/-- No turn takes the pass back, and each of its own takes it on. -/
structure Onward (definition : SagaDefinition) (startup : Startup Context) (advances : Bool)
    (after : Startup Context) : Prop where
  awaiting : Awaiting definition after
  within : after.remaining definition ≤ startup.remaining definition
  less : advances = true → after.remaining definition < startup.remaining definition

theorem Awaiting.unmoved (awaiting : Awaiting definition startup) : Onward definition startup false startup where
  awaiting := awaiting
  within := Nat.le_refl _
  less none := by cases none

theorem Awaiting.turn {pass : RecoverAll} (claimLeaseMs : Nat → Nat)
    (awaiting : Awaiting definition ⟨system, pass⟩) (input : Input Context) :
    Onward definition ⟨system, pass⟩ (StartupInput.advances ⟨system, pass⟩ (.saga input))
      ⟨(step definition claimLeaseMs system input).2, pass⟩ := by
  have formed := (step_systemStep claimLeaseMs awaiting.formed input).formed awaiting.formed
  cases pass with
  | listing => exact (awaiting.listed rfl).elim
  | finished =>
    exact
      { awaiting := ⟨formed, awaiting.listed, fun _ _ same => by cases same⟩
        within := Nat.le_refl _
        less := fun none => by cases none }
  | recovering awaited pending =>
    cases awaited with
    | none =>
      exact
        { awaiting := ⟨formed, awaiting.listed, fun _ _ same => by cases same⟩
          within := Nat.le_refl _
          less := fun none => by cases none }
    | some id =>
      have recovers : (system.runners id).Recovers := awaiting.awaited id pending rfl
      have nearer := step_nearer claimLeaseMs awaiting.formed recovers input
      refine ⟨⟨formed, awaiting.listed, ?_⟩, ?_, ?_⟩
      · intro other left same
        cases same
        exact nearer.recovers
      · exact Nat.add_le_add_right (Nat.add_le_add_right nearer.within _) _
      · intro advances
        simp only [StartupInput.advances, Bool.and_eq_true, Bool.not_eq_true'] at advances
        exact Nat.add_lt_add_right (Nat.add_lt_add_right (nearer.less advances.1 advances.2) _) _

theorem begin_remaining (clock : Nat) (sagaId : String) :
    (Saga.begin definition clock (.recoverOne sagaId) : Runner Context).remaining definition =
      10 * definition.stepOrder.length + 6 := rfl

theorem Awaiting.pass {pass : RecoverAll} (awaiting : Awaiting definition ⟨system, pass⟩) (id : Nat) :
    Onward definition ⟨system, pass⟩ (StartupInput.advances ⟨system, pass⟩ (.recover id))
      (Startup.recover definition ⟨system, pass⟩ id) := by
  cases pass with
  | listing => exact (awaiting.listed rfl).elim
  | finished => exact awaiting.unmoved
  | recovering awaited pending =>
    simp only [Startup.recover, StartupInput.advances]
    split
    · rename_i resolved
      cases pending with
      | nil =>
        refine ⟨⟨awaiting.formed, by simp, fun _ _ same => by cases same⟩, Nat.zero_le _, fun _ => ?_⟩
        simp [Startup.remaining]
      | cons next rest =>
        dsimp only
        split
        · rename_i idle
          have begun : (step definition (fun _ => 0) system (.start id (.recoverOne next))).2 =
              system.withRunner id (Saga.begin definition system.clock (.recoverOne next)) := by
            simp only [step, idle, if_true]
          have formed := (step_systemStep (fun _ => 0) awaiting.formed (.start id (.recoverOne next))).formed
            awaiting.formed
          rw [begun] at formed
          have less : Startup.remaining definition
              ⟨system.withRunner id (Saga.begin definition system.clock (.recoverOne next)),
                .recovering (some id) rest⟩ <
              Startup.remaining definition ⟨system, .recovering awaited (next :: rest)⟩ := by
            simp only [Startup.remaining, Option.map_some, Option.getD_some, System.withRunner,
              Function.update_self, begin_remaining, List.length_cons, Nat.add_mul]
            omega
          refine ⟨⟨formed, by simp, ?_⟩, less.le, fun _ => less⟩
          intro other left same
          cases same
          simp only [System.withRunner, Function.update_self]
          exact ⟨rfl, rfl⟩
        · rename_i busy
          refine ⟨awaiting, Nat.le_refl _, fun advances => ?_⟩
          simp [busy] at advances
    · rename_i unresolved
      refine ⟨awaiting, Nat.le_refl _, fun advances => ?_⟩
      simp only [Bool.and_eq_true] at advances
      exact (unresolved advances.1).elim

theorem startup_onward (claimLeaseMs : Nat → Nat) (awaiting : Awaiting definition startup)
    (input : StartupInput Context) :
    Onward definition startup (input.advances startup) (startupStep definition claimLeaseMs startup input).2 := by
  obtain ⟨system, pass⟩ := startup
  cases input with
  | saga input =>
    simp only [startupStep]
    split
    · rename_i refused
      have idle : StartupInput.advances ⟨system, pass⟩ (.saga input) = false := by
        cases input with
        | start =>
          cases pass with
          | listing | finished => rfl
          | recovering awaited => cases awaited <;> simp [StartupInput.advances, Input.advances]
        | _ => simp [Input.starts] at refused
      rw [idle]
      exact awaiting.unmoved
    · exact awaiting.turn claimLeaseMs input
  | list sagaIds =>
    cases pass with
    | listing => exact (awaiting.listed rfl).elim
    | recovering | finished => exact awaiting.unmoved
  | recover id => exact awaiting.pass id

theorem Awaiting.advances (awaiting : Awaiting definition startup) :
    startup.pass = .finished ∨ ∀ id, (startup.system.runners id).phase.isIdle = true →
      ∃ input, StartupInput.advances startup input = true := by
  obtain ⟨system, pass⟩ := startup
  cases pass with
  | listing => exact (awaiting.listed rfl).elim
  | finished => exact .inl rfl
  | recovering awaited pending =>
    right
    intro id idle
    by_cases resolved : (awaited.all fun awaited => (system.runners awaited).resolved) = true
    · exact ⟨.recover id, by simp [StartupInput.advances, resolved, idle]⟩
    · cases awaited with
      | none => simp at resolved
      | some other =>
        simp only [Option.all_some, Bool.not_eq_true] at resolved
        cases waits : (system.runners other).phase.waits with
        | true =>
          refine ⟨.saga (.settle other (.error "")), ?_⟩
          simp [StartupInput.advances, Input.advances, resolved, waits]
        | false =>
          refine ⟨.saga (.proceed other), ?_⟩
          simp [StartupInput.advances, Input.advances, resolved, waits]

/-- Once it has read the incomplete sagas, `recoverAll` returns after a bounded number of turns of its own,
whatever else the runners do meanwhile, and until then it can take one. -/
theorem recoverAll_returns (definition : SagaDefinition) (claimLeaseMs : Nat → Nat) (clock : Nat)
    (inputs : List (Input Context)) (sagaIds : List String) (turns : List (StartupInput Context)) :
    let listed : Startup Context :=
      ⟨(Run.final (step definition claimLeaseMs) (.initial clock) inputs).restarted, .recovering none sagaIds⟩
    let now := Run.final (startupStep definition claimLeaseMs) listed turns
    (Run.history (startupStep definition claimLeaseMs) listed turns).countP
          (fun receipt => receipt.input.advances receipt.before) ≤
        sagaIds.length * (10 * definition.stepOrder.length + 7) + 1 ∧
      (now.pass = .finished ∨ ∀ id, (now.system.runners id).phase.isIdle = true →
        ∃ input, StartupInput.advances now input = true) := by
  intro listed now
  have awaiting : Awaiting definition listed :=
    { formed := ⟨(final_formed definition claimLeaseMs clock inputs).storeOk, fun _ => trivial⟩
      listed := by simp [listed]
      awaited := fun _ _ same => by cases same }
  have counted : Awaiting definition now ∧
      (Run.history (startupStep definition claimLeaseMs) listed turns).countP
          (fun receipt => receipt.input.advances receipt.before) + now.remaining definition ≤
        listed.remaining definition := by
    apply Run.countP_le _ _ awaiting
    intro startup input before
    have onward := startup_onward claimLeaseMs before input
    exact ⟨onward.awaiting, onward.within, onward.less⟩
  refine ⟨?_, counted.1.advances⟩
  have start : listed.remaining definition = sagaIds.length * (10 * definition.stepOrder.length + 7) + 1 := by
    simp [listed, Startup.remaining]
  omega

end Delego.Saga
