import Mathlib.Data.List.Basic

set_option autoImplicit false

namespace Shared

variable {α : Type} {mark : α → Prop} {trace since : List α} {entry newest : α}

/-- In a trace that lists the newest entry first, `newest` is the last one to carry the mark, and
`since` is all that came after it. -/
structure LastMarked (mark : α → Prop) (trace since : List α) (newest : α) : Prop where
  cut : ∃ older, trace = since ++ newest :: older
  marked : mark newest
  unmarked : ∀ entry ∈ since, ¬ mark entry

namespace LastMarked

theorem here (marked : mark entry) : LastMarked mark (entry :: trace) [] entry where
  cut := ⟨trace, rfl⟩
  marked := marked
  unmarked := by simp

theorem cons (last : LastMarked mark trace since newest) (plain : ¬ mark entry) :
    LastMarked mark (entry :: trace) (entry :: since) newest where
  cut := by
    obtain ⟨older, same⟩ := last.cut
    exact ⟨older, congrArg (List.cons entry) same⟩
  marked := last.marked
  unmarked := by
    intro other member
    cases member with
    | head => exact plain
    | tail _ member => exact last.unmarked other member

theorem cases_cons (last : LastMarked mark (entry :: trace) since newest) :
    (mark entry ∧ since = [] ∧ newest = entry) ∨
      (¬ mark entry ∧ ∃ rest, since = entry :: rest ∧ LastMarked mark trace rest newest) := by
  obtain ⟨⟨older, cut⟩, marked, unmarked⟩ := last
  cases since with
  | nil =>
    cases cut
    exact .inl ⟨marked, rfl, rfl⟩
  | cons first rest =>
    cases cut
    refine .inr ⟨unmarked _ (List.mem_cons_self ..), rest, rfl, ⟨older, rfl⟩, marked, ?_⟩
    intro other member
    exact unmarked other (List.mem_cons_of_mem _ member)

theorem mem (last : LastMarked mark trace since newest) (member : entry ∈ since) : entry ∈ trace := by
  obtain ⟨older, cut⟩ := last.cut
  rw [cut]
  exact List.mem_append_left _ member

theorem exists_here {property : α → Prop} (marked : mark entry) :
    (∃ since newest, LastMarked mark (entry :: trace) since newest ∧ property newest) ↔
      property entry := by
  constructor
  · intro found
    obtain ⟨since, newest, last, holds⟩ := found
    rcases last.cases_cons with ⟨_, _, rfl⟩ | ⟨plain, _⟩
    · exact holds
    · exact absurd marked plain
  · intro holds
    exact ⟨[], entry, here marked, holds⟩

theorem exists_cons {property : α → Prop} (plain : ¬ mark entry) :
    (∃ since newest, LastMarked mark (entry :: trace) since newest ∧ property newest) ↔
      ∃ since newest, LastMarked mark trace since newest ∧ property newest := by
  constructor
  · intro found
    obtain ⟨since, newest, last, holds⟩ := found
    rcases last.cases_cons with ⟨marked, _⟩ | ⟨_, rest, _, tail⟩
    · exact absurd marked plain
    · exact ⟨rest, newest, tail, holds⟩
  · intro found
    obtain ⟨since, newest, last, holds⟩ := found
    exact ⟨entry :: since, newest, last.cons plain, holds⟩

theorem not_nil (last : LastMarked mark [] since newest) : False := by
  obtain ⟨older, cut⟩ := last.cut
  simp at cut

end LastMarked

end Shared
