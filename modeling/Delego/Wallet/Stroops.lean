import Delego.Utils.Currency

set_option autoImplicit false

namespace Delego.Wallet

open Shared Shared.Text Shared.Number Utils

def xlmToStroops (xlmStr : String) : String :=
  let parts := split '.' xlmStr
  let whole := parts[0]?.getD "undefined"
  let fraction := parts[1]?.getD ""
  let fraction := slice 7 (padEnd 7 fraction)
  let combined := whole ++ fraction
  let trimmed := String.ofList (combined.toList.dropWhile fun c => c = '0')
  if trimmed = "" then "0" else trimmed

theorem slice_padEnd (width : Nat) (chars : List Char) : slice width (padEnd width (String.ofList chars)) =
    String.ofList ((chars ++ List.replicate width '0').take width) := by
  rw [slice, padEnd, String.toList_append, String.toList_ofList, String.toList_ofList, String.length_ofList,
    List.take_append, List.take_append, List.take_replicate, List.take_replicate, Nat.min_self,
    Nat.min_eq_left (Nat.sub_le ..)]

/-- Both conversions make the same of a numeral. -/
theorem xlmToStroops_agrees (decimal : Decimal) :
    (displayToStroops (String.ofList decimal.chars)).map toString =
      some (xlmToStroops (String.ofList decimal.chars)) := by
  obtain ⟨whole, fraction⟩ := amount_parts false decimal
  have read := displayToStroops_amount false decimal
  simp only [amountChars, Bool.false_eq_true, if_false] at whole fraction read
  have value : readAs false decimal = (decimal.scaled 7 : Int) := by
    simp only [readAs, Decimal.scaled, stroopsPerXlm, Bool.false_eq_true, if_false]
    push_cast
    rfl
  have padded := (decimal.places_digits.append (digits_zeros 7)).take 7
  have combined : Nat.ofDigitChars 10 (decimal.whole ++ (decimal.places ++ List.replicate 7 '0').take 7) 0 =
      decimal.scaled 7 := by
    rw [ofDigitChars_append_value, ← decimal.rest_eq_padded, Decimal.scaled, Nat.mul_comm]
    simp
  rw [read, value, Option.map_some, toString_natCast, xlmToStroops, whole, fraction]
  simp only [Option.getD_some, slice_padEnd, String.toList_append, String.toList_ofList]
  rw [dropWhile_zeros (decimal.whole_digits.2.append padded), combined]
  by_cases zero : decimal.scaled 7 = 0
  · rw [zero, if_pos rfl]
    rfl
  · rw [if_neg zero, if_neg]
    simp [← String.toList_inj]

end Delego.Wallet
