import Delego.Shared.Run

set_option autoImplicit false

namespace Shared.Run

section Observing

variable {σ ι ο ω : Type} (step : σ → ι → ο × σ) (see : ο → Option ω)

/-- What an observer sees of the outputs of a run, newest first. -/
def seen (start : σ) (inputs : List ι) : List ω :=
  ((history step start inputs).map Receipt.output).filterMap see

/-- States that an observer takes for alike stay so, whether an input that is hidden from the observer
is made to one of them or one that is not hidden to both. -/
structure Unwinding (hidden : ι → Bool) (Alike : σ → σ → Prop) : Prop where
  skipped : ∀ {state state' input}, hidden input = true → Alike state state' →
    Alike (step state input).2 state' ∧ see (step state input).1 = none
  matched : ∀ {state state' input}, hidden input = false → Alike state state' →
    Alike (step state input).2 (step state' input).2 ∧
      see (step state input).1 = see (step state' input).1

variable {step see} {hidden : ι → Bool} {Alike : σ → σ → Prop} {start : σ}

theorem seen_cons (input : ι) (earlier : List ι) :
    seen step see start (input :: earlier) =
      (see (step (final step start earlier) input).1).toList ++ seen step see start earlier := by
  simp only [seen, history, List.map_cons, List.filterMap_cons, observe]
  cases see (step (final step start earlier) input).1 with
  | none => rfl
  | some shown => rfl

theorem Unwinding.shown (unwinding : Unwinding step see hidden Alike) (alike : Alike start start)
    (inputs : List ι) :
    Alike (final step start inputs) (final step start (inputs.filter fun input => !hidden input)) ∧
      seen step see start inputs = seen step see start (inputs.filter fun input => !hidden input) := by
  induction inputs with
  | nil => exact ⟨alike, rfl⟩
  | cons input earlier ih =>
    obtain ⟨after, same⟩ := ih
    cases low : hidden input with
    | true =>
      obtain ⟨kept, unseen⟩ := unwinding.skipped low after
      simp only [List.filter_cons, low, Bool.not_true, Bool.false_eq_true, if_false]
      rw [seen_cons, unseen]
      exact ⟨kept, same⟩
    | false =>
      obtain ⟨kept, both⟩ := unwinding.matched low after
      simp only [List.filter_cons, low, Bool.not_false, if_true]
      rw [seen_cons, seen_cons, both, same]
      exact ⟨kept, rfl⟩

/-- Runs that differ in hidden inputs only look the same. -/
theorem Unwinding.seen_eq (unwinding : Unwinding step see hidden Alike) (alike : Alike start start)
    {inputs inputs' : List ι}
    (agree : (inputs.filter fun input => !hidden input) = inputs'.filter fun input => !hidden input) :
    seen step see start inputs = seen step see start inputs' := by
  rw [(unwinding.shown alike inputs).2, (unwinding.shown alike inputs').2, agree]

end Observing

section Reaching

variable {σ ι κ ο ρ : Type} {step : σ → ι → ο × σ} {inner : σ → κ → ρ × σ} {reach : ι → Option κ}

/-- A machine whose inputs are an inner machine's inputs, or else leave the state as it is, ends where the
inner machine ends on those. -/
theorem final_reaching
    (reached : ∀ state input passed, reach input = some passed →
      (step state input).2 = (inner state passed).2)
    (unmoved : ∀ state input, reach input = none → (step state input).2 = state) (start : σ)
    (inputs : List ι) : final step start inputs = final inner start (inputs.filterMap reach) := by
  induction inputs with
  | nil => rfl
  | cons input earlier ih =>
    rw [final, List.filterMap_cons]
    cases passes : reach input with
    | none => rw [unmoved _ input passes, ih]
    | some passed => rw [reached _ input passed passes, ih, final]

end Reaching

end Shared.Run
