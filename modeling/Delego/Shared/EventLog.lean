import Delego.Shared.Replay
import Delego.Shared.Run
import Delego.Shared.Tx

set_option autoImplicit false

namespace Shared

namespace EventLog

open Replay

variable {σ ι ο ε ν α error : Type}

-- A call publishes its events in order; a log has its newest event first, as a run its newest input.
def published (events : ο → List ε) (past : List (Receipt σ ι ο)) : List ε :=
  past.flatMap fun receipt => (events receipt.output).reverse

-- A call that fails publishes nothing.
def emitted : Tx.Outcome ε error α → List ε
  | .ok (_, log) => log
  | .error _ => []

section

variable {step : σ → ι → ο × σ} {start : σ} {events : ο → List ε} {apply : ν → ε → Option ν}

/-- A reader that can follow each step from what it publishes knows the state after any run, as far as its
view of it goes. -/
theorem replay_published (view : σ → ν) (inputs : List ι)
    (covered : ∀ input older, input :: older <:+ inputs →
      replay apply (view (Run.final step start older))
          (events (step (Run.final step start older) input).1).reverse =
        some (view (step (Run.final step start older) input).2)) :
    replay apply (view start) (published events (Run.history step start inputs)) =
      some (view (Run.final step start inputs)) := by
  have followed : ∀ older, older <:+ inputs →
      replay apply (view start) (published events (Run.history step start older)) =
        some (view (Run.final step start older)) := by
    refine Run.along rfl ?_
    intro input older within known
    have next := covered input older within
    simp only [Run.history, published, List.flatMap_cons] at known ⊢
    rw [replay_append, known]
    exact next
  exact followed inputs List.suffix_rfl

end

/-- A whole call is followed when its own events are, from an empty log on. -/
theorem replay_invoke {call : Tx σ ε error α} {state : σ} {apply : ν → ε → Option ν} (view : σ → ν)
    (covered : ∀ a after, call.Yields ⟨state, []⟩ a after →
      replay apply (view state) after.log.reverse = some (view after.state)) :
    replay apply (view state) (emitted (Tx.invoke call state).1).reverse =
      some (view (Tx.invoke call state).2) := by
  cases result : (Tx.invoke call state).1 with
  | error fault =>
    rw [Tx.invoke_error result]
    rfl
  | ok returned => exact covered _ _ (Tx.invoke_ok.mp result)

section

variable {σ' ι' ο' : Type} {step : σ → ι → ο × σ} {step' : σ' → ι' → ο' × σ'} {start : σ} {start' : σ'}
  {events : ο → List ε} {events' : ο' → List ε}

/-- When each step of one machine is followed by some steps of another that publish the same, each run of the
one is followed by a run of the other. -/
theorem simulated (related : σ → σ' → Prop) (initial : related start start')
    (kept : ∀ state state' input, related state state' → ∃ inputs',
      related (step state input).2 (Run.final step' state' inputs') ∧
        published events' (Run.history step' state' inputs') = (events (step state input).1).reverse)
    (inputs : List ι) :
    ∃ inputs', related (Run.final step start inputs) (Run.final step' start' inputs') ∧
      published events' (Run.history step' start' inputs') = published events (Run.history step start inputs) := by
  induction inputs with
  | nil => exact ⟨[], initial, rfl⟩
  | cons input earlier ih =>
    obtain ⟨older, along, told⟩ := ih
    obtain ⟨newer, reached, more⟩ := kept _ _ input along
    refine ⟨newer ++ older, ?_, ?_⟩
    · rw [Run.final_append]
      exact reached
    · rw [Run.history_append, published, List.flatMap_append]
      change published events' _ ++ published events' _ = _
      rw [more, told]
      rfl

end

end EventLog

end Shared
