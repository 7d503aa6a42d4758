import Mathlib.Data.Fintype.EquivFin

set_option autoImplicit false

namespace Shared

/-- The integers of a fixed-width machine type: both bounds belong to the value. -/
structure MachineInt (lo hi : Int) where
  toInt : Int
  lower : lo ≤ toInt
  upper : toInt ≤ hi
  deriving DecidableEq

abbrev I128 := MachineInt (-170141183460469231731687303715884105728) 170141183460469231731687303715884105727
abbrev U32 := MachineInt 0 4294967295
abbrev U64 := MachineInt 0 18446744073709551615

namespace MachineInt

variable {lo hi : Int}

theorem ext {a b : MachineInt lo hi} (same : a.toInt = b.toInt) : a = b := by
  cases a
  cases b
  simpa using same

theorem ext_iff {a b : MachineInt lo hi} : a = b ↔ a.toInt = b.toInt :=
  ⟨congrArg toInt, ext⟩

def lit (value : Int) (inRange : (decide (lo ≤ value) && decide (value ≤ hi)) = true := by
    exact Eq.refl true) : MachineInt lo hi :=
  ⟨value, by simp_all, by simp_all⟩

@[simp] theorem lit_toInt (value : Int)
    (inRange : (decide (lo ≤ value) && decide (value ≤ hi)) = true) :
    (lit value inRange : MachineInt lo hi).toInt = value := rfl

def equivFin (lo hi : Int) : Fin (hi + 1 - lo).toNat ≃ MachineInt lo hi where
  toFun i := ⟨lo + i.val, by omega, by omega⟩
  invFun a := ⟨(a.toInt - lo).toNat, by have := a.lower; have := a.upper; omega⟩
  left_inv i := Fin.ext (by dsimp only; omega)
  right_inv a := MachineInt.ext (by have := a.lower; dsimp only; omega)

instance : Fintype (MachineInt lo hi) := Fintype.ofEquiv _ (equivFin lo hi)

def ofInt? (value : Int) : Option (MachineInt lo hi) :=
  if range : lo ≤ value ∧ value ≤ hi then some ⟨value, range.1, range.2⟩ else none

@[simp] theorem ofInt?_eq_some {value : Int} {a : MachineInt lo hi} :
    ofInt? value = some a ↔ a.toInt = value := by
  unfold ofInt?
  split
  · simp [ext_iff, eq_comm]
  · rename_i outside
    constructor
    · intro found
      cases found
    · rintro rfl
      exact absurd ⟨a.lower, a.upper⟩ outside

-- Rust's overflow checks: an operation has a result exactly when the type can hold it.
def checkedAdd (a b : MachineInt lo hi) : Option (MachineInt lo hi) := ofInt? (a.toInt + b.toInt)

def checkedSub (a b : MachineInt lo hi) : Option (MachineInt lo hi) := ofInt? (a.toInt - b.toInt)

def checkedMul (a b : MachineInt lo hi) : Option (MachineInt lo hi) := ofInt? (a.toInt * b.toInt)

-- Rust divides toward zero, and a remainder traps where its quotient overflows.
def checkedDiv (a b : MachineInt lo hi) : Option (MachineInt lo hi) :=
  if b.toInt = 0 then none else ofInt? (a.toInt.tdiv b.toInt)

def checkedRem (a b : MachineInt lo hi) : Option (MachineInt lo hi) :=
  (a.checkedDiv b).bind fun _ => ofInt? (a.toInt.tmod b.toInt)

@[simp] theorem checkedAdd_eq_some {a b c : MachineInt lo hi} :
    a.checkedAdd b = some c ↔ c.toInt = a.toInt + b.toInt := ofInt?_eq_some

@[simp] theorem checkedSub_eq_some {a b c : MachineInt lo hi} :
    a.checkedSub b = some c ↔ c.toInt = a.toInt - b.toInt := ofInt?_eq_some

@[simp] theorem checkedMul_eq_some {a b c : MachineInt lo hi} :
    a.checkedMul b = some c ↔ c.toInt = a.toInt * b.toInt := ofInt?_eq_some

@[simp] theorem checkedDiv_eq_some {a b c : MachineInt lo hi} :
    a.checkedDiv b = some c ↔ b.toInt ≠ 0 ∧ c.toInt = a.toInt.tdiv b.toInt := by
  unfold checkedDiv
  split <;> simp_all

theorem exists_between {a b : MachineInt lo hi} {value : Int} (above : a.toInt ≤ value)
    (below : value ≤ b.toInt) : ∃ c : MachineInt lo hi, c.toInt = value :=
  ⟨⟨value, a.lower.trans above, below.trans b.upper⟩, rfl⟩

theorem checkedRem_eq_some {a b c : MachineInt lo hi} :
    a.checkedRem b = some c ↔
      (∃ quotient, a.checkedDiv b = some quotient) ∧ c.toInt = a.toInt.tmod b.toInt := by
  simp [checkedRem, Option.bind_eq_some_iff]

theorem checkedRem_toInt {a b c : MachineInt lo hi} (result : a.checkedRem b = some c) :
    b.toInt ≠ 0 ∧ c.toInt = a.toInt.tmod b.toInt := by
  obtain ⟨quotient, divided, remainder⟩ := Option.bind_eq_some_iff.mp result
  exact ⟨(checkedDiv_eq_some.mp divided).1, ofInt?_eq_some.mp remainder⟩

end MachineInt

example : (MachineInt.lit 7 : I128).checkedSub (.lit 9) = some (.lit (-2)) := by
  decide

end Shared
