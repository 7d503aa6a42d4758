import Delego.Escrow.Contract

set_option autoImplicit false

namespace Delego.Escrow

open Shared

/-- The two-part computation of the source is the plain fee, rounded down. -/
theorem settlementFee_toInt {amount fee : I128} {feeBps : U32} (nonneg : 0 ≤ amount.toInt)
    (charged : settlementFee amount feeBps = some fee) :
    fee.toInt = amount.toInt * feeBps.toInt / 10000 := by
  simp only [settlementFee, Option.bind_eq_bind, Option.bind_eq_some_iff] at charged
  obtain ⟨quotient, divided, whole, scaled, remainder, reduced, rest, multiplied, part, shared, sum⟩ :=
    charged
  have quotientValue := (MachineInt.checkedDiv_eq_some.mp divided).2
  have remainderValue := (MachineInt.checkedRem_toInt reduced).2
  have partValue := (MachineInt.checkedDiv_eq_some.mp shared).2
  have restNonneg : 0 ≤ rest.toInt := by
    rw [MachineInt.checkedMul_eq_some.mp multiplied, remainderValue]
    exact Int.mul_nonneg (Int.tmod_nonneg _ nonneg) feeBps.lower
  rw [Int.tdiv_eq_ediv_of_nonneg nonneg] at quotientValue
  rw [Int.tmod_eq_emod_of_nonneg nonneg] at remainderValue
  rw [Int.tdiv_eq_ediv_of_nonneg restNonneg, MachineInt.checkedMul_eq_some.mp multiplied] at partValue
  rw [MachineInt.checkedAdd_eq_some.mp sum, MachineInt.checkedMul_eq_some.mp scaled, partValue,
    quotientValue, remainderValue]
  simp only [MachineInt.lit_toInt]
  have decomposed : amount.toInt * feeBps.toInt =
      amount.toInt % 10000 * feeBps.toInt + 10000 * (amount.toInt / 10000 * feeBps.toInt) := by
    have := Int.emod_add_mul_ediv amount.toInt 10000
    calc amount.toInt * feeBps.toInt
        = (amount.toInt % 10000 + 10000 * (amount.toInt / 10000)) * feeBps.toInt := by rw [this]
      _ = _ := by rw [Int.add_mul, Int.mul_assoc]
  rw [decomposed, Int.add_mul_ediv_left _ _ (by decide), Int.add_comm]

theorem settlementFee_bounds {amount fee : I128} {feeBps : U32} (nonneg : 0 ≤ amount.toInt)
    (bound : feeBps.toInt ≤ 1000) (charged : settlementFee amount feeBps = some fee) :
    0 ≤ fee.toInt ∧ fee.toInt ≤ amount.toInt := by
  rw [settlementFee_toInt nonneg charged]
  have product : 0 ≤ amount.toInt * feeBps.toInt := Int.mul_nonneg nonneg feeBps.lower
  have capped : amount.toInt * feeBps.toInt ≤ amount.toInt * 1000 :=
    Int.mul_le_mul_of_nonneg_left bound nonneg
  constructor
  · exact Int.ediv_nonneg product (by decide)
  · omega

-- Every intermediate value stays between zero and the amount, or below 9999 * 1000.
theorem settlementFee_exists {amount : I128} {feeBps : U32} (nonneg : 0 ≤ amount.toInt)
    (bound : feeBps.toInt ≤ 1000) : ∃ fee, settlementFee amount feeBps = some fee := by
  have rate := feeBps.lower
  have small : (0 : Int) ≤ amount.toInt / 10000 ∧ 0 ≤ amount.toInt % 10000 := by omega
  have scaled := Int.mul_nonneg small.1 rate
  have scaledBound := Int.mul_le_mul_of_nonneg_left bound small.1
  have rested := Int.mul_nonneg small.2 rate
  have restedBound := Int.mul_le_mul_of_nonneg_left bound small.2
  obtain ⟨quotient, divided⟩ : ∃ quotient : I128, quotient.toInt = amount.toInt / 10000 :=
    MachineInt.exists_between (a := .lit 0) (b := amount) small.1 (by omega)
  obtain ⟨whole, product⟩ : ∃ whole : I128, whole.toInt = amount.toInt / 10000 * feeBps.toInt :=
    MachineInt.exists_between (a := .lit 0) (b := amount) scaled (by omega)
  obtain ⟨remainder, reduced⟩ : ∃ remainder : I128, remainder.toInt = amount.toInt % 10000 :=
    MachineInt.exists_between (a := .lit 0) (b := amount) small.2 (by omega)
  obtain ⟨rest, multiplied⟩ : ∃ rest : I128, rest.toInt = amount.toInt % 10000 * feeBps.toInt :=
    MachineInt.exists_between (a := .lit 0) (b := .lit 9999000) rested (by simp; omega)
  obtain ⟨part, shared⟩ : ∃ part : I128, part.toInt = rest.toInt / 10000 :=
    MachineInt.exists_between (a := .lit 0) (b := rest) (by simp; omega) (by omega)
  obtain ⟨fee, sum⟩ : ∃ fee : I128, fee.toInt = whole.toInt + part.toInt :=
    MachineInt.exists_between (a := .lit 0) (b := amount) (by simp; omega) (by omega)
  refine ⟨fee, ?_⟩
  simp only [settlementFee, Option.bind_eq_bind, Option.bind_eq_some_iff]
  have quotientDiv : amount.checkedDiv (.lit 10000) = some quotient := by
    simp [divided, Int.tdiv_eq_ediv_of_nonneg nonneg]
  have restNonneg : 0 ≤ rest.toInt := by omega
  refine ⟨quotient, quotientDiv, whole, ?_, remainder, ?_, rest, ?_, part, ?_, ?_⟩
  · simp [product, divided]
  · simp [MachineInt.checkedRem_eq_some, quotientDiv, reduced, Int.tmod_eq_emod_of_nonneg nonneg]
  · simp [multiplied, reduced]
  · simp [shared, Int.tdiv_eq_ediv_of_nonneg restNonneg]
  · simp [sum]

end Delego.Escrow
