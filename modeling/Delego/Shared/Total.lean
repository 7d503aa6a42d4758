import Mathlib.Algebra.BigOperators.Group.List.Basic
import Mathlib.Algebra.Order.BigOperators.Group.List
import Mathlib.Algebra.Order.Ring.Nat

set_option autoImplicit false

namespace Shared

variable {α : Type}

def total (measure : α → Nat) (items : List α) : Nat := (items.map measure).sum

theorem total_append (measure : α → Nat) (items : List α) (item : α) :
    total measure (items ++ [item]) = total measure items + measure item := by
  simp [total]

theorem total_set (measure : α → Nat) {items : List α} {index : Nat} {before : α} (after : α)
    (found : items[index]? = some before) :
    total measure (items.set index after) + measure before = total measure items + measure after := by
  induction items generalizing index with
  | nil => cases found
  | cons head rest ih =>
    cases index with
    | zero =>
      cases found
      simp only [total, List.set_cons_zero, List.map_cons, List.sum_cons]
      omega
    | succ index =>
      have inner := ih found
      simp only [total, List.set_cons_succ, List.map_cons, List.sum_cons] at inner ⊢
      omega

theorem total_le {measure measure' : α → Nat} {items : List α}
    (pointwise : ∀ item ∈ items, measure item ≤ measure' item) :
    total measure items ≤ total measure' items := by
  unfold total
  exact List.sum_le_sum pointwise

theorem total_lt {measure measure' : α → Nat} {items : List α}
    (pointwise : ∀ item ∈ items, measure item ≤ measure' item)
    (strict : ∃ item ∈ items, measure item < measure' item) :
    total measure items < total measure' items := by
  unfold total
  exact List.sum_lt_sum _ _ pointwise strict

theorem total_map {β : Type} (measure : β → Nat) (change : α → β) (items : List α) :
    total measure (items.map change) = total (fun item => measure (change item)) items := by
  simp [total, Function.comp_def]

theorem total_filter (chosen : α → Bool) (items : List α) :
    total (fun item => if chosen item then 1 else 0) items = (items.filter chosen).length := by
  induction items with
  | nil => rfl
  | cons item rest ih =>
    simp only [total, List.map_cons, List.sum_cons] at ih ⊢
    rw [ih]
    cases here : chosen item with
    | false => simp [here]
    | true =>
      simp only [here, if_true, List.filter_cons_of_pos, List.length_cons]
      omega

theorem total_zero {measure : α → Nat} {items : List α} (none : ∀ item ∈ items, measure item = 0) :
    total measure items = 0 := by
  unfold total
  rw [List.sum_eq_zero]
  intro value member
  obtain ⟨item, present, rfl⟩ := List.mem_map.mp member
  exact none item present

theorem total_add (measure measure' : α → Nat) (items : List α) :
    total (fun item => measure item + measure' item) items = total measure items + total measure' items := by
  unfold total
  exact List.sum_map_add

end Shared
