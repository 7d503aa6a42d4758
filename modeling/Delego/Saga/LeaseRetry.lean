import Delego.Saga.Step

set_option autoImplicit false

namespace Delego.Saga

open Shared

variable {Context : Type} {definition : SagaDefinition} {claimLeaseMs : Nat → Nat}
  {start system : System Context} {store : SagaStore Context} {phase : Phase Context}
  {current record : SagaRecord Context} {id claimExpiresAt clock : Nat}

def Phase.Incomplete : Phase Context → Prop
  | .looping _ current _ | .claiming _ current _ _ | .working _ current _ _ => incomplete current
  | .saving _ draft (.work ..) | .saving _ draft (.again ..) | .saving _ draft (.compensate _) =>
    incomplete draft
  | _ => True

theorem enter_incomplete : (enter definition record).Incomplete := by
  unfold enter
  cases status : record.status with
  | completed | failed => trivial
  | running =>
    simp only [advance, status, SagaStatus.terminal, Bool.false_eq_true, reduceCtorEq, if_false]
    exact .inl status
  | compensating =>
    simp only [advance, status, SagaStatus.terminal, Bool.false_eq_true, if_false, if_true]
    exact .inr status

theorem loop_incomplete {mode : Mode} {remaining : List String} (held : incomplete current) :
    (loop definition clock mode current remaining).Incomplete := by
  cases remaining with
  | nil => cases mode <;> trivial
  | cons stepName rest =>
    simp only [loop]
    split
    · cases mode <;> trivial
    · split
      · trivial
      · exact held

theorem stored_incomplete {draft saved : SagaRecord Context} {next : Next} (status : saved.status = draft.status)
    (held : (Phase.saving current draft next).Incomplete) : (stored saved next).Incomplete := by
  cases next with
  | abort | finish => trivial
  | work | again | compensate =>
    simp only [stored, compensate, Phase.Incomplete, incomplete, status]
    exact held

theorem save_status {draft saved : SagaRecord Context} {store' : SagaStore Context}
    (ran : store.save draft = some (saved, store')) : saved.status = draft.status := by
  unfold SagaStore.save at ran
  split at ran
  · cases ran
  · split at ran
    · cases ran
    · cases ran
      rfl

theorem proceed_incomplete {lease : Nat} {recovering : Bool} (held : phase.Incomplete) :
    (proceed definition lease clock recovering store phase).2.1.Incomplete := by
  cases phase with
  | creating record => exact enter_incomplete
  | loading sagaId =>
    cases found : store.get sagaId with
    | none =>
      simp only [proceed, found]
      trivial
    | some record =>
      simp only [proceed, found]
      exact enter_incomplete
  | looping mode current remaining => exact loop_incomplete held
  | claiming mode current stepName rest => exact held
  | saving current draft next =>
    cases saved : store.save draft with
    | none =>
      simp only [proceed, saved]
      cases next <;> trivial
    | some result =>
      obtain ⟨saved', store'⟩ := result
      simp only [proceed, saved]
      exact stored_incomplete (save_status saved) held
  | settled result =>
    cases result with
    | error message => cases recovering <;> trivial
    | ok result =>
      cases recovering with
      | false => trivial
      | true =>
        simp only [proceed, if_true]
        split <;> trivial
  | rereading sagaId =>
    cases found : store.get sagaId with
    | none =>
      simp only [proceed, found]
      trivial
    | some latest =>
      simp only [proceed, found]
      trivial
  | rescheduling latest => trivial
  | working mode current stepName rest => exact held
  | idle | recovered => trivial

theorem settle_incomplete {outcome : Except String Context} {event : SagaEvent} {phase' : Phase Context}
    (held : phase.Incomplete) (ran : settle clock outcome phase = some (event, phase')) : phase'.Incomplete := by
  cases phase with
  | working mode current stepName rest =>
    cases mode with
    | advancing =>
      cases outcome with
      | ok context =>
        cases ran
        exact held
      | error message =>
        cases ran
        exact .inr rfl
    | compensating error =>
      cases outcome with
      | ok context =>
        cases ran
        exact held
      | error message =>
        cases ran
        trivial
  | _ => cases ran

theorem begin_incomplete (call : SagaCall Context) : (begin definition clock call).phase.Incomplete := by
  cases call <;> trivial

theorem step_incomplete (input : Input Context) (held : (system.runners id).phase.Incomplete) :
    ((step definition claimLeaseMs system input).2.runners id).phase.Incomplete := by
  by_cases own : input.runner = some id
  · cases input with
    | tick => exact held
    | start other call =>
      cases own
      simp only [step]
      split
      · simp only [System.withRunner, Function.update_self]
        exact begin_incomplete call
      · exact held
    | fire other timer =>
      cases own
      cases found : system.timers[timer]? with
      | none =>
        simp only [step, found]
        exact held
      | some scheduled =>
        simp only [step, found]
        split
        · simp only [System.withRunner, Function.update_self]
          exact begin_incomplete _
        · exact held
    | proceed other =>
      cases own
      simp only [step]
      split
      · exact held
      · simp only [System.withRunner, Function.update_self]
        exact proceed_incomplete held
    | settle other outcome =>
      cases own
      simp only [step]
      split
      · exact held
      · cases ran : settle system.clock outcome (system.runners id).phase with
        | none => exact held
        | some result =>
          simp only [System.withRunner, Function.update_self]
          exact settle_incomplete held ran
    | crash other =>
      cases own
      simp only [step, System.withRunner, Function.update_self]
      exact held
  · rw [step_frame definition claimLeaseMs system own]
    exact held

theorem run_incomplete (idle : (start.runners id).phase.isIdle = true) (inputs : List (Input Context)) :
    ((Run.final (step definition claimLeaseMs) start inputs).runners id).phase.Incomplete := by
  induction inputs with
  | nil =>
    rw [Run.final]
    cases begun : (start.runners id).phase with
    | idle => trivial
    | _ =>
      rw [begun] at idle
      cases idle
  | cons input earlier ih => exact step_incomplete input ih

structure Refused (definition : SagaDefinition) (system : System Context) (id : Nat)
    (current : SagaRecord Context) (claimExpiresAt : Nat) : Prop where
  recovering : (system.runners id).recovering = true
  alive : (system.runners id).crashed = false
  turn : ∃ mode stepName rest, (system.runners id).phase = .looping mode current (stepName :: rest) ∧
    stepName ∈ definition.stepOrder ∧ current.currentStep = some stepName
  lease : current.claimExpiresAt = some claimExpiresAt
  live : system.clock < claimExpiresAt

structure Resumed (system : System Context) (id : Nat) (current : SagaRecord Context) : Prop where
  recovering : (system.runners id).recovering = true
  alive : (system.runners id).crashed = false
  settled : (system.runners id).phase = .settled (.ok current)

def Schedules (before after : System Context) (sagaId : String) (claimExpiresAt : Nat) : Prop :=
  ∃ timer, after.timers = before.timers ++ [timer] ∧ timer.sagaId = sagaId ∧ claimExpiresAt ≤ timer.due

theorem Refused.resumed (refused : Refused definition system id current claimExpiresAt)
    (held : (system.runners id).phase.Incomplete) :
    Resumed (step definition claimLeaseMs system (.proceed id)).2 id current ∧ incomplete current := by
  obtain ⟨mode, stepName, rest, phase, known, own⟩ := refused.turn
  rw [phase] at held
  have live : leased system.clock current stepName := ⟨own, claimExpiresAt, refused.lease, refused.live⟩
  have turn : (step definition claimLeaseMs system (.proceed id)).2.runners id =
      ⟨true, false, .settled (.ok current)⟩ := by
    simp [step, refused.alive, refused.recovering, phase, proceed, loop, known, live, System.withRunner]
  refine ⟨⟨?_, ?_, ?_⟩, held⟩
  all_goals rw [turn]

theorem Resumed.stays (resumed : Resumed system id current) {input : Input Context}
    (waits : input ≠ .proceed id ∧ input ≠ .crash id) :
    Resumed (step definition claimLeaseMs system input).2 id current := by
  have kept : (step definition claimLeaseMs system input).2.runners id = system.runners id := by
    by_cases elsewhere : input.runner = some id
    · cases input with
      | tick => cases elsewhere
      | start other call =>
        cases elsewhere
        simp [step, resumed.settled, Phase.isIdle]
      | fire other timer =>
        cases elsewhere
        cases found : system.timers[timer]? with
        | none => simp [step, found]
        | some scheduled => simp [step, found, resumed.settled, Phase.isIdle]
      | proceed other =>
        cases elsewhere
        exact absurd rfl waits.1
      | settle other outcome =>
        cases elsewhere
        simp [step, resumed.alive, resumed.settled, settle]
      | crash other =>
        cases elsewhere
        exact absurd rfl waits.2
    · exact step_frame definition claimLeaseMs system elsewhere
  constructor
  case recovering => exact kept ▸ resumed.recovering
  case alive => exact kept ▸ resumed.alive
  case settled => exact kept ▸ resumed.settled

theorem Resumed.waited (resumed : Resumed system id current) {between : List (Input Context)}
    (waits : ∀ input ∈ between, input ≠ .proceed id ∧ input ≠ .crash id) :
    Resumed (Run.final (step definition claimLeaseMs) system between) id current := by
  induction between with
  | nil => exact resumed
  | cons input between ih =>
    have before := ih fun other member => waits other (List.mem_cons_of_mem _ member)
    exact before.stays (waits input List.mem_cons_self)

theorem Resumed.returns (resumed : Resumed system id current) (lease : current.claimExpiresAt = some claimExpiresAt) :
    ((step definition claimLeaseMs system (.proceed id)).2.runners id).phase = .recovered ∧
      (step definition claimLeaseMs system (.proceed id)).2.timers =
        system.timers ++ (scheduleRetryIfLeased system.clock current).toList := by
  simp [step, resumed.alive, resumed.settled, resumed.recovering, proceed, lease, System.withRunner]

theorem scheduleRetry_iff (working : incomplete current) (lease : current.claimExpiresAt = some claimExpiresAt)
    (clock : Nat) :
    (∃ timer, scheduleRetryIfLeased clock current = some timer ∧ timer.sagaId = current.sagaId ∧
      claimExpiresAt ≤ timer.due) ↔
        clock < claimExpiresAt ∧ claimExpiresAt - clock + 50 ≤ 2147483647 := by
  unfold scheduleRetryIfLeased
  rw [if_neg (not_not.mpr working), lease]
  by_cases expired : claimExpiresAt ≤ clock
  · simp [expired]
  · have live : clock < claimExpiresAt := Nat.lt_of_not_le expired
    simp only [expired, if_false, Option.some.injEq, exists_eq_left', true_and, live, setTimeout]
    split <;> omega

/-- A recovery that a live lease has held off comes back, and schedules a retry for when the lease is over
just when the lease is still live at that time and ends within the longest delay of a timer. -/
theorem retry_scheduled_iff (definition : SagaDefinition) (claimLeaseMs : Nat → Nat) (start : System Context)
    (earlier between : List (Input Context)) (id : Nat) (current : SagaRecord Context) (claimExpiresAt : Nat)
    (idle : (start.runners id).phase.isIdle = true)
    (refused : Refused definition (Run.final (step definition claimLeaseMs) start earlier) id current
      claimExpiresAt)
    (waits : ∀ input ∈ between, input ≠ .proceed id ∧ input ≠ .crash id)
    (before after : System Context)
    (waited : before = Run.final (step definition claimLeaseMs) start (between ++ .proceed id :: earlier))
    (returned : after = (step definition claimLeaseMs before (.proceed id)).2) :
    (after.runners id).phase = .recovered ∧
      (Schedules before after current.sagaId claimExpiresAt ↔
        before.clock < claimExpiresAt ∧ claimExpiresAt - before.clock + 50 ≤ 2147483647) := by
  obtain ⟨resumed, working⟩ := @Refused.resumed _ _ claimLeaseMs _ _ _ _ refused (run_incomplete idle earlier)
  have waiting : Resumed before id current := by
    rw [waited, Run.final_append]
    exact resumed.waited waits
  obtain ⟨phase, timers⟩ := @Resumed.returns _ definition claimLeaseMs _ _ _ _ waiting refused.lease
  rw [← returned] at phase timers
  refine ⟨phase, ?_⟩
  rw [← scheduleRetry_iff working refused.lease before.clock]
  unfold Schedules
  rw [timers]
  constructor
  · rintro ⟨timer, added, named, due⟩
    have own := List.append_cancel_left added
    cases scheduled : scheduleRetryIfLeased before.clock current with
    | none =>
      rw [scheduled] at own
      cases own
    | some other =>
      rw [scheduled] at own
      cases own
      exact ⟨timer, rfl, named, due⟩
  · rintro ⟨timer, scheduled, named, due⟩
    exact ⟨timer, by rw [scheduled]; rfl, named, due⟩

def heldInputs : List (Input Unit) :=
  [ .start 0 (.run "saga" "order" ()), .proceed 0, .proceed 0, .proceed 0, .proceed 0,
    .start 1 (.recoverOne "saga"), .proceed 1 ].reverse

def heldRecord : SagaRecord Unit where
  sagaId := "saga"
  orderId := "order"
  status := .running
  completedSteps := []
  context := ()
  currentStep := some "reserve"
  error := none
  version := 1
  claimExpiresAt := some 30000
  createdAt := 0
  updatedAt := 0

theorem heldInputs_refused :
    Refused sampleDefinition (final sampleDefinition sampleLease 0 heldInputs) 1 heldRecord 30000 where
  recovering := rfl
  alive := rfl
  turn := ⟨.advancing, "reserve", ["pay"], rfl, by decide, rfl⟩
  lease := rfl
  live := by
    decide

theorem ticks_wait (elapsedMs : Nat) :
    ∀ input ∈ [(.tick elapsedMs : Input Unit)], input ≠ .proceed 1 ∧ input ≠ .crash 1 := by
  simp

def heldWaited (elapsedMs : Nat) : System Unit :=
  final sampleDefinition sampleLease 0 ([.tick elapsedMs] ++ .proceed 1 :: heldInputs)

def heldReturned (elapsedMs : Nat) : System Unit :=
  (step sampleDefinition sampleLease (heldWaited elapsedMs) (.proceed 1)).2

theorem retry_scheduled_iff_in_time : ((heldReturned 100).runners 1).phase = .recovered ∧
    (Schedules (heldWaited 100) (heldReturned 100) "saga" 30000 ↔
      (heldWaited 100).clock < 30000 ∧ 30000 - (heldWaited 100).clock + 50 ≤ 2147483647) :=
  retry_scheduled_iff sampleDefinition sampleLease (.initial 0) heldInputs [.tick 100] 1 heldRecord 30000
    rfl heldInputs_refused (ticks_wait 100) _ _ rfl rfl

/-- The lease ends between the two readings of the clock, and nothing takes the saga up again. -/
theorem expired_lease_not_retried : ¬ ∀ (definition : SagaDefinition) (claimLeaseMs : Nat → Nat)
    (start : System Unit) (earlier between : List (Input Unit)) (id : Nat) (current : SagaRecord Unit)
    (claimExpiresAt : Nat) (before : System Unit), (start.runners id).phase.isIdle = true →
      Refused definition (Run.final (step definition claimLeaseMs) start earlier) id current claimExpiresAt →
      (∀ input ∈ between, input ≠ .proceed id ∧ input ≠ .crash id) →
      before = Run.final (step definition claimLeaseMs) start (between ++ .proceed id :: earlier) →
        Schedules before (step definition claimLeaseMs before (.proceed id)).2 current.sagaId claimExpiresAt := by
  intro scheduled
  obtain ⟨timer, added, _⟩ := scheduled sampleDefinition sampleLease (.initial 0) heldInputs [.tick 30000] 1
    heldRecord 30000 (heldWaited 30000) rfl heldInputs_refused (ticks_wait 30000) rfl
  have silent : (step sampleDefinition sampleLease (heldWaited 30000) (.proceed 1)).2.timers = [] := rfl
  rw [silent] at added
  cases List.append_eq_nil_iff.mp added.symm with
  | intro _ single => cases single

end Delego.Saga
