set_option autoImplicit false

namespace Shared

variable {ρ : Type} {version : ρ → Nat} {before after slot : Option ρ} {held copy : ρ}

/-- A slot under optimistic concurrency: what it holds is only replaced at a higher version. -/
def Grows (version : ρ → Nat) (before after : Option ρ) : Prop :=
  ∀ held, before = some held → ∃ next, after = some next ∧ (next = held ∨ version held < version next)

/-- A copy read from a slot at some time: it is what the slot holds as long as the versions agree. -/
def Copied (version : ρ → Nat) (slot : Option ρ) (copy : ρ) : Prop :=
  ∃ held, slot = some held ∧ version copy ≤ version held ∧ (version held = version copy → held = copy)

namespace Grows

theorem refl (version : ρ → Nat) (slot : Option ρ) : Grows version slot slot :=
  fun held found => ⟨held, found, .inl rfl⟩

theorem of_none (after : Option ρ) : Grows version none after := by
  intro held found
  cases found

theorem of_some {next : ρ} (higher : version held < version next) :
    Grows version (some held) (some next) := by
  intro other found
  cases found
  exact ⟨next, rfl, .inr higher⟩

end Grows

namespace Copied

theorem here (version : ρ → Nat) (held : ρ) : Copied version (some held) held :=
  ⟨held, rfl, Nat.le_refl _, fun _ => rfl⟩

theorem grow (copied : Copied version before copy) (grows : Grows version before after) :
    Copied version after copy := by
  obtain ⟨held, found, bound, current⟩ := copied
  obtain ⟨next, stored, later⟩ := grows held found
  refine ⟨next, stored, ?_⟩
  rcases later with rfl | later
  · exact ⟨bound, current⟩
  · constructor
    · omega
    · omega

theorem stale (copied : Copied version slot copy) (replaced : slot ≠ some copy) :
    ∃ held, slot = some held ∧ version held ≠ version copy := by
  obtain ⟨held, found, _, current⟩ := copied
  refine ⟨held, found, ?_⟩
  intro same
  obtain rfl := current same
  exact replaced found

end Copied

end Shared
