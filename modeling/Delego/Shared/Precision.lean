import Delego.Shared.Number
import Mathlib.Tactic.Positivity

set_option autoImplicit false

namespace Shared.Number

open Text

-- At most 53 binary digits lie between the first and the last that is not zero.
def Fits (number : Nat) : Prop :=
  ∃ significand exponent, significand < 2 ^ 53 ∧ number = significand * 2 ^ exponent

theorem binaryExponent_natCast {number : Nat} (positive : number ≠ 0) :
    binaryExponent number = Nat.log2 number := by
  have below : (2 : Rat) ^ Nat.log2 number ≤ number := by exact_mod_cast Nat.log2_self_le positive
  have one : Nat.log2 1 = 0 := by decide
  simp [binaryExponent, one, below]

theorem roundHalfEven_intCast (value : Int) : roundHalfEven value = value := by
  simp [roundHalfEven]

theorem roundHalfEven_natCast (value : Nat) : roundHalfEven (value : Rat) = value :=
  roundHalfEven_intCast value

theorem nearest_natCast {number : Nat} (positive : number ≠ 0) {unit : Rat}
    (last : (2 : Rat) ^ ((Nat.log2 number : Int) - 52) = unit) :
    nearest number = if (2 : Rat) ^ 1024 ≤ roundHalfEven (number / unit) * unit then .infinite false
      else .finite (roundHalfEven (number / unit) * unit) := by
  have some : (number : Rat) ≠ 0 := by exact_mod_cast positive
  have sign : ¬ (number : Rat) < 0 := not_lt.mpr (Nat.cast_nonneg number)
  have exponent : max (-1074) ((Nat.log2 number : Int) - 52) = (Nat.log2 number : Int) - 52 := by omega
  simp only [nearest, some, if_false, Nat.abs_cast, binaryExponent_natCast positive, exponent, last, sign,
    decide_false]

theorem nearest_exact {number : Nat} {unit : Rat} (quotient : Nat) (positive : number ≠ 0)
    (bound : number < 2 ^ 1024)
    (last : (2 : Rat) ^ ((Nat.log2 number : Int) - 52) = unit) (whole : (number : Rat) / unit = quotient) :
    nearest number = .finite number := by
  have unit_ne : unit ≠ 0 := by
    rw [← last]
    exact zpow_ne_zero _ two_ne_zero
  have product : ((quotient : Int) : Rat) * unit = number := by
    rw [Int.cast_natCast, ← whole, div_mul_cancel₀ _ unit_ne]
  have small : ¬ (2 : Rat) ^ 1024 ≤ number := by
    rw [not_le]
    exact_mod_cast bound
  rw [nearest_natCast positive last, whole, roundHalfEven_natCast, product, if_neg small]

theorem nearest_small {number : Nat} (positive : number ≠ 0) (bound : number < 2 ^ 1024)
    (small : number < 2 ^ 53) : nearest number = .finite number := by
  have log : Nat.log2 number < 53 := (Nat.log2_lt positive).mpr small
  have last : (2 : Rat) ^ ((Nat.log2 number : Int) - 52) = ((2 : Rat) ^ (52 - Nat.log2 number))⁻¹ := by
    rw [← zpow_natCast, ← zpow_neg]
    congr 1
    omega
  exact nearest_exact (number * 2 ^ (52 - Nat.log2 number)) positive bound last (by simp)

section Large

variable {number shift : Nat}

theorem unit_natCast (log : Nat.log2 number = shift + 52) :
    (2 : Rat) ^ ((Nat.log2 number : Int) - 52) = ((2 ^ shift : Nat) : Rat) := by
  rw [log, Nat.cast_pow, ← zpow_natCast]
  congr 1
  omega

theorem fits_of_nearest (positive : number ≠ 0) (log : Nat.log2 number = shift + 52)
    (kept : nearest number = .finite number) : Fits number := by
  have upper := Nat.lt_log2_self (n := number)
  rw [nearest_natCast positive (unit_natCast log)] at kept
  split at kept
  · cases kept
  · have rounded : (roundHalfEven (number / ((2 ^ shift : Nat) : Rat)) : Rat) * ((2 ^ shift : Nat) : Rat) =
        number := Number.finite.inj kept
    generalize roundHalfEven (number / ((2 ^ shift : Nat) : Rat)) = quotient at rounded
    have product : quotient * (2 ^ shift : Nat) = (number : Int) := by exact_mod_cast rounded
    have natural : 0 ≤ quotient := by
      by_contra below
      have := mul_neg_of_neg_of_pos (not_le.mp below) (show (0 : Int) < (2 ^ shift : Nat) by positivity)
      omega
    obtain ⟨significand, rfl⟩ := Int.eq_ofNat_of_zero_le natural
    have equation : number = significand * 2 ^ shift := by exact_mod_cast product.symm
    refine ⟨significand, shift, ?_, equation⟩
    rw [log, show shift + 52 + 1 = 53 + shift by omega, Nat.pow_add, equation] at upper
    exact Nat.lt_of_mul_lt_mul_right upper

theorem unit_dvd (positive : number ≠ 0) (log : Nat.log2 number = shift + 52) (fits : Fits number) :
    2 ^ shift ∣ number := by
  obtain ⟨significand, exponent, short, equation⟩ := fits
  have lower := Nat.log2_self_le positive
  rcases Nat.lt_or_ge exponent shift with less | more
  · have less' : 2 ^ (53 + exponent) ≤ 2 ^ (shift + 52) := Nat.pow_le_pow_right (by decide) (by omega)
    have small : significand * 2 ^ exponent < 2 ^ 53 * 2 ^ exponent :=
      Nat.mul_lt_mul_of_pos_right short (by positivity)
    rw [Nat.pow_add] at less'
    rw [log] at lower
    omega
  · rw [equation]
    exact (Nat.pow_dvd_pow 2 more).trans (Nat.dvd_mul_left ..)

end Large

theorem nearest_iff {number : Nat} (bound : number < 2 ^ 1024) :
    nearest number = .finite number ↔ Fits number := by
  by_cases zero : number = 0
  · cases zero
    exact ⟨fun _ => ⟨0, 0, by decide, rfl⟩, fun _ => by simp [nearest]⟩
  by_cases small : number < 2 ^ 53
  · exact ⟨fun _ => ⟨number, 0, small, by simp⟩, fun _ => nearest_small zero bound small⟩
  have large : 53 ≤ Nat.log2 number := (Nat.le_log2 zero).mpr (by omega)
  obtain ⟨shift, log⟩ : ∃ shift, Nat.log2 number = shift + 52 := ⟨Nat.log2 number - 52, by omega⟩
  constructor
  · intro kept
    exact fits_of_nearest zero log kept
  · intro fits
    obtain ⟨quotient, product⟩ := unit_dvd zero log fits
    have whole : (number : Rat) / ((2 ^ shift : Nat) : Rat) = quotient := by
      have cast : (number : Rat) = ((2 ^ shift : Nat) : Rat) * quotient := by exact_mod_cast product
      rw [cast, mul_div_cancel_left₀ _ (by positivity)]
    exact nearest_exact quotient zero bound (unit_natCast log) whole

theorem decimal_digits {chars : List Char} (digits : ∀ c ∈ chars, c.isDigit = true)
    (nonempty : chars ≠ []) :
    decimal chars = some (Nat.ofDigitChars 10 chars 0 : Rat) := by
  have whole (here : Char → Bool) (other : ∀ c, c.isDigit = true → here c = false) :
      cut here chars = (chars, none) := by
    have rest : (chars.dropWhile fun c => ! here c) = [] := by
      rw [List.dropWhile_eq_nil_iff]
      intro c member
      simp [other c (digits c member)]
    simp [cut, rest]
  have exponent := whole (fun c => c = 'e' || c = 'E') fun c digit => by
    rw [Bool.or_eq_false_iff, decide_eq_false_iff_not, decide_eq_false_iff_not]
    constructor
    · rintro rfl
      cases digit
    · rintro rfl
      cases digit
  have point := whole (fun c => c = '.') fun c digit => by
    rw [decide_eq_false_iff_not]
    rintro rfl
    cases digit
  simp [decimal, exponent, point, natural_digits digits nonempty]

theorem trim_toString (number : Nat) : trim (toString number) = toString number := by
  have chars : (toString number).toList = Nat.toDigits 10 number := Nat.toList_repr
  rw [trim, chars, trimmed_of_clean fun c member => isSpace_isDigit (isDigit_toDigits number c member),
    ← chars, String.ofList_toList]

theorem ofText_toString (number : Nat) : ofText (toString number) = nearest number := by
  have digits := isDigit_toDigits number
  have whole : (trim (toString number)).toList = Nat.toDigits 10 number := by
    rw [trim_toString]
    exact Nat.toList_repr
  have read : unsigned false (Nat.toDigits 10 number) = nearest number := by
    have plain : Nat.toDigits 10 number ≠ "Infinity".toList := by
      intro same
      rw [same] at digits
      cases digits 'I' (by decide)
    rw [unsigned, if_neg plain, decimal_digits digits Nat.toDigits_ne_nil, Nat.ofDigitChars_ten_toDigits]
    rfl
  have nonempty : Nat.toDigits 10 number ≠ [] := Nat.toDigits_ne_nil
  rw [ofText, whole]
  generalize Nat.toDigits 10 number = chars at digits read nonempty
  -- No mark of another notation is a digit.
  split
  · exact absurd rfl nonempty
  · cases digits 'x' (by simp)
  · cases digits 'X' (by simp)
  · cases digits 'o' (by simp)
  · cases digits 'O' (by simp)
  · cases digits 'b' (by simp)
  · cases digits 'B' (by simp)
  · cases digits '-' (by simp)
  · cases digits '+' (by simp)
  · exact read

end Shared.Number
