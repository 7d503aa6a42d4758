import Mathlib.Data.List.Infix

set_option autoImplicit false

namespace Shared

structure Receipt (σ ι ο : Type) where
  before : σ
  input : ι
  output : ο
  after : σ

namespace Run

variable {σ ι ο : Type}

section Machine

variable (step : σ → ι → ο × σ) (start : σ)

-- Inputs and receipts are listed newest first, so that a run is extended by a cons.
def final : List ι → σ
  | [] => start
  | input :: earlier => (step (final earlier) input).2

def observe (state : σ) (input : ι) : Receipt σ ι ο :=
  ⟨state, input, (step state input).1, (step state input).2⟩

def history : List ι → List (Receipt σ ι ο)
  | [] => []
  | input :: earlier => observe step (final step start earlier) input :: history earlier

theorem history_forall {property : Receipt σ ι ο → Prop}
    (observed : ∀ state input, property (observe step state input)) (inputs : List ι) :
    ∀ receipt ∈ history step start inputs, property receipt := by
  induction inputs with
  | nil => simp [history]
  | cons input earlier ih =>
    simp only [history, List.mem_cons, forall_eq_or_imp]
    exact ⟨observed _ input, ih⟩

theorem history_input (inputs : List ι) :
    (history step start inputs).map Receipt.input = inputs := by
  induction inputs with
  | nil => rfl
  | cons input earlier ih => simp [history, observe, ih]

theorem final_append (later earlier : List ι) :
    final step start (later ++ earlier) = final step (final step start earlier) later := by
  induction later with
  | nil => rfl
  | cons input later ih => simp [final, ih]

theorem history_append (later earlier : List ι) :
    history step start (later ++ earlier) =
      history step (final step start earlier) later ++ history step start earlier := by
  induction later with
  | nil => rfl
  | cons input later ih => simp [history, ih, final_append]

@[simp] theorem history_length (inputs : List ι) :
    (history step start inputs).length = inputs.length := by
  induction inputs with
  | nil => rfl
  | cons input earlier ih => simp [history, ih]

theorem history_eq_append {inputs : List ι} {later earlier : List (Receipt σ ι ο)}
    (cut : history step start inputs = later ++ earlier) :
    ∃ newer older, inputs = newer ++ older ∧ earlier = history step start older ∧
      later = history step (final step start older) newer := by
  have lengths := congrArg List.length cut
  simp only [history_length, List.length_append] at lengths
  have parts := history_append step start (inputs.take later.length) (inputs.drop later.length)
  rw [List.take_append_drop, cut] at parts
  have sizes : later.length = (history step (final step start (inputs.drop later.length))
      (inputs.take later.length)).length := by
    simp only [history_length, List.length_take]
    omega
  obtain ⟨newer, older⟩ := List.append_inj parts sizes
  exact ⟨_, _, (List.take_append_drop later.length inputs).symm, older, newer⟩

theorem history_cut {inputs : List ι} {later earlier : List (Receipt σ ι ο)} {receipt : Receipt σ ι ο}
    (cut : history step start inputs = later ++ receipt :: earlier) :
    ∃ older input, earlier = history step start older ∧
      receipt = observe step (final step start older) input := by
  obtain ⟨newer, older, _, same, _⟩ := history_eq_append step start cut
  cases older with
  | nil => cases same
  | cons input older =>
    cases same
    exact ⟨older, input, rfl, rfl⟩

theorem mem_history {inputs : List ι} {receipt : Receipt σ ι ο} :
    receipt ∈ history step start inputs ↔ ∃ input older, (input :: older) <:+ inputs ∧
      receipt = observe step (final step start older) input := by
  induction inputs with
  | nil => simp [history]
  | cons input earlier ih =>
    rw [history, List.mem_cons, ih]
    constructor
    · rintro (rfl | ⟨input', older, suffix, same⟩)
      · exact ⟨input, earlier, List.suffix_rfl, rfl⟩
      · exact ⟨input', older, suffix.trans (List.suffix_cons ..), same⟩
    · rintro ⟨input', older, suffix, same⟩
      rcases List.suffix_cons_iff.mp suffix with whole | within
      · cases whole
        exact .inl same
      · exact .inr ⟨input', older, within, same⟩

/-- What holds at the start and is kept by every step holds of every run, together with its history. -/
theorem invariant (property : List (Receipt σ ι ο) → σ → Prop) (initial : property [] start)
    (kept : ∀ past state input, property past state →
      property (observe step state input :: past) (step state input).2)
    (inputs : List ι) : property (history step start inputs) (final step start inputs) := by
  induction inputs with
  | nil => exact initial
  | cons input earlier ih => exact kept _ _ input ih

/-- Where no step adds to a measure and each step of a kind takes from it, a run has no more steps of that kind
than the measure at its start. -/
theorem countP_le {holds : σ → Prop} {measure : σ → Nat} {counts : Receipt σ ι ο → Bool} (initial : holds start)
    (kept : ∀ state input, holds state → holds (step state input).2 ∧
      measure (step state input).2 ≤ measure state ∧
      (counts (observe step state input) = true → measure (step state input).2 < measure state))
    (inputs : List ι) :
    holds (final step start inputs) ∧
      (history step start inputs).countP counts + measure (final step start inputs) ≤ measure start := by
  induction inputs with
  | nil => exact ⟨initial, by simp [history, final]⟩
  | cons input earlier ih =>
    obtain ⟨before, few⟩ := ih
    obtain ⟨after, within, less⟩ := kept _ input before
    refine ⟨after, ?_⟩
    rw [history, List.countP_cons, final]
    cases counted : counts (observe step (final step start earlier) input) with
    | true =>
      have fewer := less counted
      simp only [if_true]
      omega
    | false =>
      simp only [Bool.false_eq_true, if_false]
      omega

end Machine

/-- What holds at the start and is kept by each step that a run takes holds all along the run. -/
theorem along {property : List ι → Prop} {inputs : List ι} (initial : property [])
    (kept : ∀ input older, input :: older <:+ inputs → property older → property (input :: older)) :
    ∀ older, older <:+ inputs → property older := by
  intro older within
  induction older with
  | nil => exact initial
  | cons input older ih => exact kept input older within (ih ((List.suffix_cons ..).trans within))

end Run

end Shared
