import Delego.Payments.Arbiters

set_option autoImplicit false

namespace Delego.Payments.Arbiters

open Shared

section Retrying

variable {threshold : Number} {system : System} {escrowId arbiter signature : String}
  {state : DisputeResolutionState} {now : Nat}

theorem reaches_mono {count count' : Nat} (more : count ≤ count') (reached : reaches count threshold = true) :
    reaches count' threshold = true := by
  cases threshold with
  | nan => cases reached
  | infinite => exact reached
  | finite threshold =>
    simp only [reaches, decide_eq_true_eq] at reached ⊢
    exact reached.trans (Nat.cast_le.mpr more)

def Enough (system : System) : Prop :=
  ∀ escrowId state, system.disputes escrowId = some state → state.status ≠ .collecting →
    reaches state.signatures.length state.threshold = true

theorem Enough.update {calls : List Call} (enough : Enough system)
    (own : state.status ≠ .collecting → reaches state.signatures.length state.threshold = true) :
    Enough ⟨Function.update system.disputes escrowId (some state), calls⟩ := by
  intro other state' held
  dsimp only at held
  by_cases same : other = escrowId
  · rw [same, Function.update_self] at held
    cases held
    exact own
  · rw [Function.update_of_ne same] at held
    exact enough other state' held

theorem Enough.collected (enough : Enough system)
    (collected : collectArbiterSignature threshold system.disputes escrowId arbiter signature now = .ok state)
    (past : state.status ≠ .collecting) : reaches state.signatures.length state.threshold = true := by
  obtain ⟨before, initial, _, status, limit, sig, _, signatures, _⟩ := collectArbiterSignature_ok collected
  cases held : system.disputes escrowId with
  | none =>
    rw [held, Option.getD_none] at initial
    rw [status, initial] at past
    exact absurd rfl past
  | some found =>
    rw [held, Option.getD_some] at initial
    rw [status, initial] at past
    have reached := enough escrowId found held past
    rw [limit, signatures, initial, List.length_append]
    exact reaches_mono (Nat.le_add_right _ _) reached

theorem Enough.finish {past : List ArbiterReceipt} {id : Nat} {call : Call} {status : Status}
    {result : DisputeResolutionState → Except String DisputeResolutionState} (enough : Enough system)
    (sound : Sound threshold escrowId past system) (found : system.calls[id]? = some call)
    (flies : call.inFlight = some escrowId) : Enough (system.finish id escrowId status result) := by
  obtain ⟨state, held, submitted, _⟩ := sound.in_flight found flies
  have reached := enough escrowId state held (by rw [submitted]; decide)
  unfold System.finish
  rw [held]
  exact enough.update fun _ => reached

theorem step_enough {past : List ArbiterReceipt} (enough : Enough system)
    (sound : ∀ escrowId, Sound threshold escrowId past system) (input : Input) :
    Enough (step threshold system input).2 := by
  cases input with
  | collect escrowId arbiter signature now =>
    simp only [step]
    cases collected : collectArbiterSignature threshold system.disputes escrowId arbiter signature now with
    | error message => exact enough
    | ok state =>
      cases reached : reaches state.signatures.length state.threshold with
      | true =>
        simp only [reached, if_true]
        exact enough.update fun _ => reached
      | false =>
        simp only [reached, Bool.false_eq_true, if_false]
        exact enough.update (enough.collected collected)
  | respond id response =>
    cases found : system.calls[id]? with
    | none =>
      simp only [step, found]
      exact enough
    | some call =>
      cases call with
      | submitting escrowId =>
        simp only [step, found]
        cases response with
        | ok => exact enough.finish (sound escrowId) found rfl
        | refused status => exact enough
        | failed message => exact enough.finish (sound escrowId) found rfl
      | reading | returned =>
        simp only [step, found]
        exact enough
  | read id body =>
    cases found : system.calls[id]? with
    | none =>
      simp only [step, found]
      exact enough
    | some call =>
      cases call with
      | reading escrowId status =>
        simp only [step, found]
        exact enough.finish (sound escrowId) found rfl
      | submitting | returned =>
        simp only [step, found]
        exact enough

theorem final_enough (threshold : Number) (inputs : List Input) : Enough (final threshold inputs) := by
  induction inputs with
  | nil =>
    intro escrowId state held
    cases held
  | cons input earlier ih => exact step_enough ih (sound threshold earlier) input

end Retrying

def Submits (threshold : Number) (system : System) (escrowId arbiter signature : String) (now : Nat) : Prop :=
  ∃ signatures, (step threshold system (.collect escrowId arbiter signature now)).1 =
    some (.submitted escrowId signatures)

/-- After a submission has failed, a call starts a new one just when its arbiter has not signed yet. -/
theorem submission_retried_iff {threshold : Number} {inputs : List Input} {state : DisputeResolutionState}
    {escrowId arbiter signature : String} {now : Nat}
    (held : (final threshold inputs).disputes escrowId = some state) (met : state.status = .thresholdMet)
    (given : escrowId ≠ "" ∧ arbiter ≠ "" ∧ signature ≠ "") :
    Submits threshold (final threshold inputs) escrowId arbiter signature now ↔
      ∀ s ∈ state.signatures, s.arbiter ≠ arbiter := by
  have stated : ¬ (escrowId = "" ∨ arbiter = "" ∨ signature = "") := by
    simpa only [not_or] using given
  have opened : ¬ state.status.closed = true := by
    rw [met]
    decide
  cases signed : state.signatures.any fun s => s.arbiter = arbiter with
  | true =>
    obtain ⟨s, member, same⟩ := List.any_eq_true.mp signed
    have refused : ¬ ∀ s ∈ state.signatures, s.arbiter ≠ arbiter :=
      fun fresh => fresh s member (of_decide_eq_true same)
    simp only [Submits, step, collectArbiterSignature, stated, if_false, held, Option.getD_some, signed, if_true,
      reduceCtorEq, exists_false, refused]
  | false =>
    have fresh : ∀ s ∈ state.signatures, s.arbiter ≠ arbiter := by
      simpa using signed
    have reached := final_enough threshold inputs escrowId state held (by rw [met]; decide)
    have more : reaches (state.signatures.length + 1) state.threshold = true :=
      reaches_mono (Nat.le_add_right _ _) reached
    simp only [Submits, step, collectArbiterSignature, stated, if_false, held, Option.getD_some, signed, opened,
      Bool.false_eq_true, List.length_append, List.length_singleton, more, if_true]
    exact iff_of_true ⟨_, rfl⟩ fresh

def failedSubmission : List Input :=
  [.respond 1 (.failed "fetch failed"), .collect "e1" "bo" "s2" 2, .collect "e1" "ana" "s1" 1]

def failedDispute : DisputeResolutionState where
  escrowId := "e1"
  threshold := .finite 2
  signatures :=
    [ ⟨"e1", "ana", "s1", computePayloadHash "e1" "ana" "s1", 1⟩,
      ⟨"e1", "bo", "s2", computePayloadHash "e1" "bo" "s2", 2⟩ ]
  status := .thresholdMet

theorem failedSubmission_held : (final (.finite 2) failedSubmission).disputes "e1" = some failedDispute := by
  decide +kernel

theorem submission_retried_iff_new :
    Submits (.finite 2) (final (.finite 2) failedSubmission) "e1" "cy" "s3" 3 ↔
      ∀ s ∈ failedDispute.signatures, s.arbiter ≠ "cy" :=
  submission_retried_iff failedSubmission_held rfl (by decide)

theorem signed_arbiter_refused :
    ¬ ∀ (threshold : Number) (inputs : List Input) (state : DisputeResolutionState)
        (escrowId arbiter signature : String) (now : Nat),
      (final threshold inputs).disputes escrowId = some state → state.status = .thresholdMet →
        escrowId ≠ "" ∧ arbiter ≠ "" ∧ signature ≠ "" →
          Submits threshold (final threshold inputs) escrowId arbiter signature now := by
  intro retried
  obtain ⟨signatures, told⟩ := retried (.finite 2) failedSubmission failedDispute "e1" "ana" "s1" 3
    failedSubmission_held rfl (by decide)
  have silent : (step (.finite 2) (final (.finite 2) failedSubmission) (.collect "e1" "ana" "s1" 3)).1 = none := by
    decide +kernel
  rw [silent] at told
  cases told

end Delego.Payments.Arbiters
