import Mathlib.Data.List.Basic

set_option autoImplicit false

namespace Shared.Pages

section Order

variable {α κ : Type}

/-- A total order on keys, as a strict comparison. -/
structure KeyOrder (κ : Type) where
  before : κ → κ → Bool
  irrefl : ∀ a, before a a = false
  trans : ∀ {a b c}, before a b = true → before b c = true → before a c = true
  total : ∀ {a b}, a ≠ b → before a b = true ∨ before b a = true

namespace KeyOrder

variable (order : KeyOrder κ) (key : α → κ)

theorem asymm {a b : κ} (less : order.before a b = true) : order.before b a = false := by
  rw [Bool.eq_false_iff]
  intro more
  cases (order.irrefl a).symm.trans (order.trans less more)

def reversed : KeyOrder κ where
  before a b := order.before b a
  irrefl := order.irrefl
  trans less more := order.trans more less
  total different := order.total different.symm

def sort (items : List α) : List α := items.mergeSort fun a b => ! order.before (key b) (key a)

variable {key}

def Sorted (key : α → κ) (items : List α) : Prop :=
  items.Pairwise fun a b => order.before (key a) (key b) = true

theorem sort_perm (items : List α) : (order.sort key items).Perm items := List.mergeSort_perm ..

theorem sort_sorted {items : List α} (distinct : (items.map key).Nodup) :
    order.Sorted key (order.sort key items) := by
  have weak : (order.sort key items).Pairwise fun a b => (! order.before (key b) (key a)) = true := by
    refine List.pairwise_mergeSort ?_ ?_ items
    · intro a b c first second
      simp only [Bool.not_eq_true'] at first second ⊢
      rw [Bool.eq_false_iff]
      intro less
      by_cases same : key b = key c
      · rw [← same] at less
        cases first.symm.trans less
      · rcases order.total same with up | down
        · cases first.symm.trans (order.trans up less)
        · cases second.symm.trans down
    · intro a b
      cases less : order.before (key b) (key a) with
      | false => rfl
      | true => simp [order.asymm less]
  have apart : ((order.sort key items).map key).Nodup :=
    ((order.sort_perm items).map key).nodup_iff.mpr distinct
  rw [List.Nodup, List.pairwise_map] at apart
  apply (weak.and apart).imp
  rintro a b ⟨notMore, different⟩
  rcases order.total different with less | more
  · exact less
  · simp [more] at notMore

theorem sorted_unique {items items' : List α} (sorted : order.Sorted key items)
    (sorted' : order.Sorted key items') (perm : items.Perm items') : items = items' := by
  refine List.Perm.eq_of_pairwise ?_ sorted sorted' perm
  intro a b _ _ less more
  cases (order.asymm less).symm.trans more

theorem filter_after {front back : List α} {last : α} (sorted : order.Sorted key (front ++ last :: back)) :
    (front ++ last :: back).filter (fun item => order.before (key last) (key item)) = back := by
  obtain ⟨_, rest, across⟩ := List.pairwise_append.mp sorted
  obtain ⟨later, _⟩ := List.pairwise_cons.mp rest
  have none : front.filter (fun item => order.before (key last) (key item)) = [] := by
    rw [List.filter_eq_nil_iff]
    intro item member more
    cases (order.asymm (across item member last List.mem_cons_self)).symm.trans more
  rw [List.filter_append, none, List.nil_append, List.filter_cons_of_neg (by simp [order.irrefl]),
    List.filter_eq_self]
  exact later

end KeyOrder

end Order

section Collect

variable {α κ : Type} (key : α → κ) (fetch : Option κ → Option (List α)) (limit : Nat)

/-- A client that asks for one page after the other, each from the last item that it has got, until a page
is short. It is none where a page is not there, or where the pages have not ended in time. -/
def collect : Nat → Option κ → Option (List α)
  | 0, _ => none
  | fuel + 1, cursor =>
    match fetch cursor with
    | none => none
    | some page =>
      if page.length < limit then some page
      else
        match page.getLast? with
        | none => none
        | some last => (collect fuel (some (key last))).map fun later => page ++ later

variable {key fetch limit} {items : List α}

/-- If a page is what comes next, the client gets all items, and gets them in order. -/
theorem collect_complete (positive : 0 < limit) (first : fetch none = some (items.take limit))
    (next : ∀ front last back, items = front ++ last :: back →
      fetch (some (key last)) = some (back.take limit)) :
    ∀ fuel, items.length < fuel → collect key fetch limit fuel none = some items := by
  -- The induction is on the fuel, for what is left of the items after any cursor.
  have rest (fuel : Nat) : ∀ cursor left seen, items = seen ++ left →
      (cursor = none ∧ seen = [] ∨ ∃ front last, seen = front ++ [last] ∧ cursor = some (key last)) →
      left.length < fuel → collect key fetch limit fuel cursor = some left := by
    induction fuel with
    | zero =>
      intro cursor left seen _ _ short
      cases short
    | succ fuel ih =>
      intro cursor left seen whole stands short
      have page : fetch cursor = some (left.take limit) := by
        rcases stands with ⟨rfl, rfl⟩ | ⟨front, last, rfl, rfl⟩
        · rw [first, whole]
          rfl
        · exact next front last left (by rw [whole, List.append_assoc]; rfl)
      rw [collect, page]
      by_cases ends : left.length < limit
      · rw [List.take_of_length_le (Nat.le_of_lt ends)]
        simp [ends]
      · have full : (left.take limit).length = limit := by
          rw [List.length_take]
          omega
        have nonempty : left.take limit ≠ [] := by
          intro empty
          rw [empty] at full
          exact absurd full (Nat.ne_of_lt positive)
        have whole' : items = (seen ++ left.take limit) ++ left.drop limit := by
          rw [List.append_assoc, List.take_append_drop, whole]
        have later := ih (some (key ((left.take limit).getLast nonempty))) (left.drop limit)
          (seen ++ left.take limit) whole' ?_ ?_
        · simp only [full, Nat.lt_irrefl, if_false, List.getLast?_eq_some_getLast nonempty, later,
            Option.map_some, List.take_append_drop]
        · refine .inr ⟨seen ++ (left.take limit).dropLast, _, ?_, rfl⟩
          rw [List.append_assoc, List.dropLast_append_getLast]
        · rw [List.length_drop]
          omega
  intro fuel short
  exact rest fuel none items [] rfl (.inl ⟨rfl, rfl⟩) short

end Collect

end Shared.Pages
