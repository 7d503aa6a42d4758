import Delego.Saga.RecordInvariant

set_option autoImplicit false

namespace Delego.Saga

open Shared

variable {Context : Type} {definition : SagaDefinition} {clock : Nat} {store : SagaStore Context}
  {phase : Phase Context} {mode : Mode} {next : Next} {remaining : List String}
  {record current draft : SagaRecord Context}

def SagaRecord.Bare (record : SagaRecord Context) : Prop := record.completedSteps = []

def SagaStore.Bare (store : SagaStore Context) : Prop :=
  ∀ sagaId record, store sagaId = some record → record.Bare

def Phase.Bare : Phase Context → Prop
  | .creating record | .looping _ record _ | .claiming _ record _ _ | .working _ record _ _
  | .rescheduling record | .settled (.ok record) => record.Bare
  | .saving current draft _ => current.Bare ∧ draft.Bare
  | .idle | .loading _ | .rereading _ | .settled (.error _) | .recovered => True

theorem enter_bare (bare : record.Bare) : (enter definition record).Bare := by
  unfold enter advance compensate
  split
  · exact bare
  · split
    · exact bare
    · exact bare

theorem loop_bare (bare : current.Bare) : (loop definition clock mode current remaining).Bare := by
  cases remaining with
  | nil => cases mode <;> exact ⟨bare, bare⟩
  | cons stepName rest =>
    simp only [loop]
    split
    · cases mode with
      | advancing => trivial
      | compensating error => exact ⟨bare, bare⟩
    · split
      · exact bare
      · exact bare

theorem lost_bare (bare : current.Bare) : (lost current next).Bare := by
  cases next with
  | work => exact bare
  | again | compensate | abort | finish => trivial

theorem stored_bare (bare : draft.Bare) : (stored draft next).Bare := by
  cases next with
  | work | again | compensate | finish => exact bare
  | abort => trivial

theorem SagaStore.Bare.update (bare : store.Bare) (written : SagaRecord Context) (own : written.Bare) :
    SagaStore.Bare (Function.update store written.sagaId (some written)) := by
  intro sagaId found held
  by_cases same : sagaId = written.sagaId
  · subst same
    have saved : written = found := by simpa using held
    exact saved ▸ own
  · exact bare sagaId found (by simpa [same] using held)

theorem save_bare (bare : store.Bare) (own : draft.Bare) {saved : SagaRecord Context}
    {store' : SagaStore Context} (done : store.save draft = some (saved, store')) :
    saved.Bare ∧ store'.Bare := by
  unfold SagaStore.save at done
  split at done
  · cases done
  · split at done
    · cases done
    · cases done
      exact ⟨own, bare.update { draft with version := draft.version + 1 } own⟩

theorem proceed_bare (definition : SagaDefinition) (claimLeaseMs clock : Nat) (recovering : Bool)
    (bare : store.Bare) (own : phase.Bare) :
    (proceed definition claimLeaseMs clock recovering store phase).2.1.Bare ∧
      (proceed definition claimLeaseMs clock recovering store phase).1.Bare := by
  cases phase with
  | creating record =>
    cases found : store record.sagaId with
    | some existing =>
      simp only [proceed, SagaStore.createIfNotExists, found]
      exact ⟨enter_bare (bare _ _ found), bare⟩
    | none =>
      simp only [proceed, SagaStore.createIfNotExists, found]
      exact ⟨enter_bare own, bare.update { record with version := 0 } own⟩
  | loading sagaId =>
    cases found : store sagaId with
    | none =>
      simp only [proceed, SagaStore.get, found]
      exact ⟨trivial, bare⟩
    | some record =>
      simp only [proceed, SagaStore.get, found]
      exact ⟨enter_bare (bare _ _ found), bare⟩
  | looping mode current remaining => exact ⟨loop_bare own, bare⟩
  | claiming mode current stepName rest => exact ⟨⟨own, own⟩, bare⟩
  | saving current draft next =>
    cases done : store.save draft with
    | none =>
      simp only [proceed, done]
      exact ⟨lost_bare own.1, bare⟩
    | some result =>
      obtain ⟨saved, after⟩ := save_bare bare own.2 done
      simp only [proceed, done]
      exact ⟨stored_bare saved, after⟩
  | settled result =>
    cases result with
    | error message =>
      simp only [proceed]
      split
      · exact ⟨trivial, bare⟩
      · exact ⟨trivial, bare⟩
    | ok record =>
      simp only [proceed]
      split
      · dsimp only
        split
        · exact ⟨trivial, bare⟩
        · exact ⟨trivial, bare⟩
      · exact ⟨own, bare⟩
  | rereading sagaId =>
    cases found : store sagaId with
    | none =>
      simp only [proceed, SagaStore.get, found]
      exact ⟨trivial, bare⟩
    | some record =>
      simp only [proceed, SagaStore.get, found]
      exact ⟨bare _ _ found, bare⟩
  | rescheduling latest => exact ⟨trivial, bare⟩
  | idle | recovered => exact ⟨trivial, bare⟩
  | working => exact ⟨own, bare⟩

section Systems

variable {system : System Context}

structure System.Bare (system : System Context) : Prop where
  rows : system.store.Bare
  phases : ∀ id, (system.runners id).phase.Bare

theorem System.Bare.withPhase (bare : system.Bare) (id : Nat) {runner : Runner Context}
    (own : runner.phase.Bare) : (system.withRunner id runner).Bare where
  rows := bare.rows
  phases other := by
    by_cases same : other = id
    · subst same
      simpa [System.withRunner] using own
    · simpa [System.withRunner, same] using bare.phases other

theorem initial_bare (clock : Nat) : System.Bare (.initial clock : System Context) where
  rows _ _ found := by cases found
  phases _ := trivial

theorem begin_bare (definition : SagaDefinition) (clock : Nat) (call : SagaCall Context) :
    (begin definition clock call).phase.Bare := by
  cases call with
  | run sagaId orderId initialContext => exact rfl
  | resume sagaId => trivial
  | recoverOne sagaId => trivial

-- Of the inputs only a resolved action can complete a step.
def Input.Resolves (system : System Context) : Input Context → Prop
  | .settle id outcome => ∃ current stepName rest context,
    (system.runners id).phase = .working .advancing current stepName rest ∧ outcome = .ok context
  | _ => False

theorem step_bare (claimLeaseMs : Nat → Nat) (formed : Formed definition system) (bare : system.Bare)
    (input : Input Context) (fruitless : ¬ input.Resolves system) :
    (step definition claimLeaseMs system input).2.Bare := by
  cases input with
  | tick elapsedMs => exact ⟨bare.rows, bare.phases⟩
  | start id call =>
    simp only [step]
    split
    · exact bare.withPhase id (begin_bare definition system.clock call)
    · exact bare
  | fire id timer =>
    cases found : system.timers[timer]? with
    | none =>
      simp only [step, found]
      exact bare
    | some retry =>
      simp only [step, found]
      split
      · have begun := bare.withPhase id (begin_bare definition system.clock (.recoverOne retry.sagaId))
        exact ⟨begun.rows, begun.phases⟩
      · exact bare
  | proceed id =>
    simp only [step]
    split
    · exact bare
    · obtain ⟨own, rows⟩ := proceed_bare definition (claimLeaseMs id) system.clock
        (system.runners id).recovering bare.rows (bare.phases id)
      exact ⟨rows, (bare.withPhase id own).phases⟩
  | settle id outcome =>
    have own := bare.phases id
    have sound := formed.sound id
    simp only [step]
    split
    · exact bare
    · cases phase : (system.runners id).phase with
      | working mode current stepName rest =>
        rw [phase] at own sound
        cases mode with
        | advancing =>
          cases outcome with
          | ok context => exact absurd ⟨current, stepName, rest, context, phase, rfl⟩ fruitless
          | error message => exact bare.withPhase id ⟨own, own⟩
        | compensating error =>
          -- There is nothing to compensate.
          have split := (Ahead.split sound.2.1).1
          rw [show current.completedSteps = [] from own] at split
          simp at split
      | _ => exact bare
  | crash id => exact bare.withPhase id (bare.phases id)

theorem SagaRecord.Bare.not_completed (bare : record.Bare) (ok : RecordOk definition record) :
    record.status ≠ .completed := by
  intro completed
  have all := ok.all completed
  rw [show record.completedSteps = [] from bare] at all
  exact definition.nonempty all.symm

end Systems

end Delego.Saga
