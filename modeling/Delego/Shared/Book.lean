import Mathlib.Algebra.BigOperators.Group.Finset.Piecewise
import Mathlib.Algebra.BigOperators.Group.Finset.Basic
import Mathlib.Algebra.Order.BigOperators.Group.Finset

set_option autoImplicit false

namespace Shared

variable {κ ν : Type} [Fintype κ]

def bookTotal (weight : ν → Int) (book : κ → Option ν) : Int :=
  ∑ key, (book key).elim 0 weight

theorem bookTotal_empty (weight : ν → Int) : bookTotal weight (fun _ : κ => none) = 0 := by
  simp [bookTotal]

theorem bookTotal_update [DecidableEq κ] (weight : ν → Int) (book : κ → Option ν) (key : κ) (entry : Option ν) :
    bookTotal weight (Function.update book key entry) =
      bookTotal weight book - (book key).elim 0 weight + entry.elim 0 weight := by
  have pointwise : (fun k => (Function.update book key entry k).elim 0 weight) =
      Function.update (fun k => (book k).elim 0 weight) key (entry.elim 0 weight) := by
    funext k
    exact Function.apply_update (fun _ e => e.elim 0 weight) book key entry k
  have split := Finset.sum_erase_add Finset.univ (fun k => (book k).elim 0 weight)
    (Finset.mem_univ key)
  unfold bookTotal
  rw [pointwise, Finset.sum_update_of_mem (Finset.mem_univ key), Finset.sdiff_singleton_eq_erase]
  omega

theorem entry_le_bookTotal {weight : ν → Int} {book : κ → Option ν}
    (nonneg : ∀ key, 0 ≤ (book key).elim 0 weight) (key : κ) :
    (book key).elim 0 weight ≤ bookTotal weight book :=
  Finset.single_le_sum (f := fun key => (book key).elim 0 weight) (fun key _ => nonneg key)
    (Finset.mem_univ key)

theorem bookTotal_zero {weight : ν → Int} {book : κ → Option ν}
    (empty : ∀ key, (book key).elim 0 weight = 0) : bookTotal weight book = 0 :=
  Finset.sum_eq_zero fun key _ => empty key

end Shared
