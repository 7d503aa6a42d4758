import Delego.Saga.Step
import Mathlib.Logic.Relation

set_option autoImplicit false

namespace Delego.Saga

open Shared

variable {Context : Type} {definition : SagaDefinition} {before after : System Context}
  {event : Option SagaEvent} {sagaId : String} {record held : SagaRecord Context}

structure Succeeds (held record : SagaRecord Context) : Prop where
  status : record.status = held.status ∨ Moves held.status record.status
  terminal : held.status.terminal = true → record = held

theorem Succeeds.refl (record : SagaRecord Context) : Succeeds record record where
  status := .inl rfl
  terminal _ := rfl

theorem SystemStep.succeeds (turn : SystemStep definition before event after)
    (found : before.store sagaId = some held) :
    ∃ record, after.store sagaId = some record ∧ Succeeds held record := by
  rcases turn.storeStep.slot sagaId with same | ⟨_, absent, _⟩ |
    ⟨_, current, draft, _, present, _, saved, write⟩
  · exact ⟨held, same.trans found, .refl held⟩
  · cases absent.symm.trans found
  · cases present.symm.trans found
    obtain ⟨remaining, mode, ahead⟩ := write.ahead
    exact ⟨draft.bumped, saved,
      { status := write.moves
        terminal := fun finished => by cases ahead.not_terminal.symm.trans finished }⟩

theorem SystemStep.origin (turn : SystemStep definition before event after)
    (found : after.store sagaId = some record) :
    (before.store sagaId = none ∧ record.status = .running) ∨
      ∃ held, before.store sagaId = some held ∧ Succeeds held record := by
  cases present : before.store sagaId with
  | some held =>
    obtain ⟨next, stored, succeeds⟩ := turn.succeeds present
    cases stored.symm.trans found
    exact .inr ⟨held, rfl, succeeds⟩
  | none =>
    rcases turn.storeStep.slot sagaId with same | ⟨_, _, created, _, running, _⟩ |
      ⟨_, _, _, _, held, _⟩
    · cases (same.trans present).symm.trans found
    · cases created.symm.trans found
      exact .inl ⟨rfl, running⟩
    · cases present.symm.trans held

theorem final_succeeds (definition : SagaDefinition) (claimLeaseMs : Nat → Nat) (clock : Nat)
    (inputs newer : List (Input Context))
    (found : (final definition claimLeaseMs clock inputs).store sagaId = some held) :
    ∃ record,
      (final definition claimLeaseMs clock (newer ++ inputs)).store sagaId = some record ∧
        Relation.ReflTransGen Moves held.status record.status ∧
        (held.status.terminal = true → record = held) := by
  induction newer with
  | nil => exact ⟨held, found, .refl, fun _ => rfl⟩
  | cons input newer ih =>
    obtain ⟨middle, present, path, same⟩ := ih
    have formed := final_formed definition claimLeaseMs clock (newer ++ inputs)
    obtain ⟨record, stored, succeeds⟩ := (step_systemStep claimLeaseMs formed input).succeeds present
    refine ⟨record, stored, ?_, ?_⟩
    · rcases succeeds.status with kept | moved
      · rw [kept]
        exact path
      · exact path.tail moved
    · intro finished
      obtain rfl := same finished
      exact succeeds.terminal finished

theorem history_turn (definition : SagaDefinition) (claimLeaseMs : Nat → Nat) (clock : Nat)
    (inputs : List (Input Context)) :
    ∀ receipt ∈ history definition claimLeaseMs clock inputs,
      SystemStep definition receipt.before receipt.output receipt.after := by
  intro receipt member
  obtain ⟨later, earlier, cut⟩ := List.append_of_mem member
  obtain ⟨older, input, _, rfl⟩ := Run.history_cut _ _ cut
  exact step_systemStep claimLeaseMs (final_formed definition claimLeaseMs clock older) input

/-- The record of a saga, under any interleaving of runners, crashes and recoveries: its completed
steps fit its status, its status only moves forward, and once it is finished it never changes. -/
theorem saga_record_invariant (definition : SagaDefinition) (claimLeaseMs : Nat → Nat) (clock : Nat)
    (inputs : List (Input Context)) :
    (∀ sagaId record,
      (final definition claimLeaseMs clock inputs).store sagaId = some record →
        record.completedSteps <+: definition.stepOrder ∧
          (record.status = .completed → record.completedSteps = definition.stepOrder) ∧
          (record.status = .failed → record.completedSteps = [])) ∧
    (∀ receipt ∈ history definition claimLeaseMs clock inputs, ∀ sagaId record,
      receipt.after.store sagaId = some record →
        (receipt.before.store sagaId = none ∧ record.status = .running) ∨
          ∃ held, receipt.before.store sagaId = some held ∧
            (record.status = held.status ∨ Moves held.status record.status)) ∧
    (∀ newer sagaId record,
      (final definition claimLeaseMs clock inputs).store sagaId = some record →
        ∃ later,
          (final definition claimLeaseMs clock (newer ++ inputs)).store sagaId = some later ∧
            Relation.ReflTransGen Moves record.status later.status ∧
            (record.status = .completed ∨ record.status = .failed → later = record)) := by
  refine ⟨?_, ?_, ?_⟩
  · intro sagaId record found
    have ok := (final_formed definition claimLeaseMs clock inputs).storeOk.ok sagaId record found
    exact ⟨ok.ordered, ok.all, ok.none⟩
  · intro receipt member sagaId record found
    rcases (history_turn definition claimLeaseMs clock inputs receipt member).origin found with
      created | ⟨held, present, succeeds⟩
    · exact .inl created
    · exact .inr ⟨held, present, succeeds.status⟩
  · intro newer sagaId record found
    obtain ⟨later, stored, path, same⟩ := final_succeeds definition claimLeaseMs clock inputs newer found
    refine ⟨later, stored, path, ?_⟩
    intro finished
    apply same
    rcases finished with status | status
    · simp [status, SagaStatus.terminal]
    · simp [status, SagaStatus.terminal]

end Delego.Saga
