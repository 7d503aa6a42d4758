import Mathlib.Data.List.Infix

set_option autoImplicit false

namespace Shared

namespace Replay

variable {σ ε : Type}

section

variable (apply : σ → ε → Option σ) (start : σ)

-- What the events make of a state, newest first, if each is accepted where it comes.
def replay : List ε → Option σ
  | [] => some start
  | event :: earlier => (replay earlier).bind fun state => apply state event

-- What the events make of a state when those that are refused change nothing.
def settle : List ε → σ
  | [] => start
  | event :: earlier => (apply (settle earlier) event).getD (settle earlier)

def accepted : List ε → List ε
  | [] => []
  | event :: earlier =>
    match apply (settle apply start earlier) event with
    | some _ => event :: accepted earlier
    | none => accepted earlier

end

variable {apply : σ → ε → Option σ} {start : σ}

theorem replay_step {before after : σ} {event : ε} {earlier : List ε}
    (reached : replay apply start earlier = some before)
    (accepted : apply before event = some after) :
    replay apply start (event :: earlier) = some after := by
  simp [replay, reached, accepted]

theorem replay_append (later earlier : List ε) :
    replay apply start (later ++ earlier) =
      (replay apply start earlier).bind fun state => replay apply state later := by
  induction later with
  | nil =>
    rw [List.nil_append]
    cases replay apply start earlier <;> rfl
  | cons event later ih =>
    simp only [List.cons_append, replay, ih]
    cases replay apply start earlier <;> rfl

/-- Events that are accepted where they come are still accepted when the last of them are left out. -/
theorem replay_suffix {events older : List ε} {state : σ} (reached : replay apply start events = some state)
    (within : older <:+ events) : ∃ state, replay apply start older = some state := by
  obtain ⟨later, rfl⟩ := within
  rw [replay_append] at reached
  obtain ⟨before, replayed, _⟩ := Option.bind_eq_some_iff.mp reached
  exact ⟨before, replayed⟩

theorem settle_append (later earlier : List ε) :
    settle apply start (later ++ earlier) = settle apply (settle apply start earlier) later := by
  induction later with
  | nil => rfl
  | cons event later ih => simp [settle, ih]

theorem settle_of_replay {events : List ε} {state : σ} (reached : replay apply start events = some state) :
    settle apply start events = state := by
  induction events generalizing state with
  | nil => exact Option.some.inj reached
  | cons event earlier ih =>
    obtain ⟨before, replayed, applied⟩ := Option.bind_eq_some_iff.mp reached
    simp [settle, ih replayed, applied]

/-- The accepted events alone, each accepted in its turn, lead to the same state. -/
theorem replay_accepted (events : List ε) :
    replay apply start (accepted apply start events) = some (settle apply start events) := by
  induction events with
  | nil => rfl
  | cons event earlier ih =>
    cases applied : apply (settle apply start earlier) event with
    | none => simpa [accepted, settle, applied] using ih
    | some state => simp [accepted, settle, applied, replay, ih]

end Replay

end Shared
