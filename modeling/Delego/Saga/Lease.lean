import Delego.Saga.Step
import Mathlib.Data.List.Infix

set_option autoImplicit false

namespace Delego.Saga

open Shared

variable {Context : Type} {definition : SagaDefinition} {clock : Nat} {store : SagaStore Context}
  {before after : System Context} {phase : Phase Context} {record current draft : SagaRecord Context}
  {mode : Mode} {next : Next} {event : Option SagaEvent} {sagaId : String} {id other : Nat}

/-- Nobody's claim on the saga has run out: whoever works under a claim, or waits for what came of
the work to be saved, does so before the lease expires. A crashed runner never finishes. -/
def Timely (sagaId : String) (system : System Context) : Prop :=
  ∀ id record claimExpiresAt, (system.runners id).phase.claim = some record →
    record.sagaId = sagaId → record.claimExpiresAt = some claimExpiresAt →
      system.clock < claimExpiresAt

structure Held (sagaId : String) (system : System Context) : Prop where
  current : ∀ id record, (system.runners id).phase.claim = some record → record.sagaId = sagaId →
    system.store sagaId = some record
  alone : ∀ id other record record', (system.runners id).phase.claim = some record →
    record.sagaId = sagaId → (system.runners other).phase.claim = some record' →
      record'.sagaId = sagaId → id = other

theorem claim_ahead (sound : Sound definition clock store phase) (claim : phase.claim = some record) :
    ∃ stepName rest mode, Ahead definition record (stepName :: rest) mode ∧
      Claimed record stepName := by
  cases phase with
  | working mode current stepName rest =>
    cases claim
    exact ⟨stepName, rest, mode, sound.2⟩
  | saving current draft next =>
    obtain ⟨_, write⟩ := sound
    cases write with
    | claim | completed | failed => cases claim
    | acted ahead claimed | rejected ahead claimed | compensated ahead claimed
    | released ahead claimed =>
      cases claim
      exact ⟨_, _, _, ahead, claimed⟩
  | idle | creating | loading | looping | claiming | settled | rereading | rescheduling
  | recovered => cases claim

/-- While a claim on the saga is live, only its holder can have a save accepted: any other save on
the claimed record would be a second claim of the same step, which the lease test refuses. -/
theorem sole_saver (formed : Formed definition before) (held : Held sagaId before)
    (timely : Timely sagaId before)
    (saving : (before.runners other).phase = .saving current draft next)
    (found : before.store sagaId = some current)
    (claim : (before.runners id).phase.claim = some record) (named : record.sagaId = sagaId) :
    other = id := by
  cases (held.current id record claim named).symm.trans found
  obtain ⟨claimedStep, left, working, due, claimed⟩ := claim_ahead (formed.sound id) claim
  have sound := formed.sound other
  rw [saving] at sound
  have afterWork (afterWork : next.afterWork = true) : other = id := by
    refine held.alone other id record record ?_ named claim named
    simp [saving, Phase.claim, afterWork]
  obtain ⟨_, write⟩ := sound
  cases write with
  | claim ahead free =>
    cases ahead.unique due
    obtain ⟨claimExpiresAt, live⟩ := Option.isSome_iff_exists.mp claimed.2
    have expired := free claimExpiresAt claimed.1 live
    have running := timely id record claimExpiresAt claim named live
    omega
  | completed ahead | failed ahead => cases ahead.unique due
  | acted | rejected | compensated | released => exact afterWork rfl

theorem stored_claim (record : SagaRecord Context) (next : Next) :
    (stored record next).claim = none ∨ (stored record next).claim = some record := by
  cases next with
  | work => exact .inr rfl
  | again | compensate | abort | finish => exact .inl rfl

theorem Held.of_claims (held : Held sagaId before)
    (store : before.store sagaId ≠ none → after.store sagaId = before.store sagaId)
    (claims : ∀ id record, (after.runners id).phase.claim = some record → record.sagaId = sagaId →
      (before.runners id).phase.claim = some record) : Held sagaId after where
  current id record claim named := by
    have present := held.current id record (claims id record claim named) named
    rw [store (by simp [present])]
    exact present
  alone id other record record' claim named claim' named' :=
    held.alone id other record record' (claims id record claim named) named
      (claims other record' claim' named') named'

theorem Held.saved (held : Held sagaId before) (formed : Formed definition before)
    (timely : Timely sagaId before)
    (others : ∀ other, other ≠ id → after.runners other = before.runners other)
    (saving : (before.runners id).phase = .saving current draft next)
    (found : before.store current.sagaId = some current)
    (write : Write definition clock current next draft)
    (store : after.store = Function.update before.store current.sagaId (some draft.bumped))
    (phase : (after.runners id).phase = stored draft.bumped next) : Held sagaId after := by
  have claims (record : SagaRecord Context) (claim : (after.runners id).phase.claim = some record) :
      record = draft.bumped := by
    rw [phase] at claim
    rcases stored_claim draft.bumped next with none | some
    · cases none.symm.trans claim
    · exact (Option.some.inj (some.symm.trans claim)).symm
  by_cases ours : current.sagaId = sagaId
  · -- The holder of a live claim would be the runner that saves, which holds none now but its own.
    have only (other : Nat) (record : SagaRecord Context)
        (claim : (after.runners other).phase.claim = some record) (named : record.sagaId = sagaId) :
        other = id := by
      by_contra different
      rw [others other different] at claim
      exact different (sole_saver formed held timely saving (ours ▸ found) claim named).symm
    constructor
    case current =>
      intro other record claim named
      obtain rfl := only other record claim named
      rw [claims record claim, store, ← ours]
      exact Function.update_self ..
    case alone =>
      intro one other record record' claim named claim' named'
      exact (only one record claim named).trans (only other record' claim' named').symm
  · refine held.of_claims ?_ ?_
    · intro _
      rw [store]
      exact Function.update_of_ne (Ne.symm ours) ..
    · intro other record claim named
      by_cases same : other = id
      · subst same
        rw [claims record claim] at named
        exact absurd (write.sagaId.symm.trans named) ours
      · rwa [others other same] at claim

theorem SystemStep.held (turn : SystemStep definition before event after)
    (formed : Formed definition before) (held : Held sagaId before)
    (timely : Timely sagaId before) : Held sagaId after := by
  cases turn with
  | elsewhere store _ phases =>
    refine held.of_claims (fun _ => congrFun store sagaId) ?_
    intro id record claim _
    rwa [phases id] at claim
  | ran id _ others turn =>
    rcases turn.kept_or_saved with ⟨claims, kept⟩ | ⟨_, _, _, saving, found, write, store, phase⟩
    · refine held.of_claims (kept sagaId) ?_
      intro other record claim _
      by_cases same : other = id
      · subst same
        exact claims record claim
      · rwa [others other same] at claim
    · exact held.saved formed timely others saving found write store phase

theorem timely_of_named (definition : SagaDefinition) (claimLeaseMs : Nat → Nat) (clock : Nat)
    (inputs : List (Input Context)) (runners : List Nat)
    (named : ∀ input ∈ inputs, ∀ id ∈ input.runner, id ∈ runners)
    (checked : ∀ older ∈ inputs.tails, ∀ id ∈ runners,
      ∀ record ∈ ((final definition claimLeaseMs clock older).runners id).phase.claim,
        ∀ claimExpiresAt ∈ record.claimExpiresAt,
          (final definition claimLeaseMs clock older).clock < claimExpiresAt) :
    ∀ older, older <:+ inputs → Timely sagaId (final definition claimLeaseMs clock older) := by
  intro older suffix id record claimExpiresAt claim _ expiry
  refine checked older ((List.mem_tails older inputs).mpr suffix) id ?_ record claim claimExpiresAt expiry
  by_contra unnamed
  have untouched : ∀ input ∈ older, input.runner ≠ some id := by
    intro input member touched
    exact unnamed (named input (suffix.subset member) id touched)
  rw [final_untouched definition claimLeaseMs clock older untouched] at claim
  cases claim

end Delego.Saga
