import Delego.Shared.Digits
import Delego.Shared.Json

set_option autoImplicit false

namespace Delego.Utils

open Shared Shared.Text Shared.Number

structure BigIntStringParseResult where
  valid : Bool
  value : Option Int
  error : Option String
  deriving DecidableEq

structure ParseBigIntStringOptions where
  allowNegative : Bool
  requirePositive : Bool
  max : Option Int

def defaultOptions : ParseBigIntStringOptions := ⟨false, false, none⟩

def nonNegativeIntegerPattern (chars : List Char) : Bool := chars ≠ [] && chars.all Char.isDigit

def integerStringPattern : List Char → Bool
  | '-' :: chars => nonNegativeIntegerPattern chars
  | chars => nonNegativeIntegerPattern chars

def parseError (error : String) : BigIntStringParseResult := ⟨false, none, some error⟩

def parseBigIntString (input : Option Json) (options : ParseBigIntStringOptions) :
    BigIntStringParseResult :=
  match input with
  | none | some .null => parseError "missing"
  | some (.string input) =>
    let trimmed := trim input
    let pattern := if options.allowNegative then integerStringPattern else nonNegativeIntegerPattern
    if trimmed = "" then parseError "missing"
    else if ¬ pattern trimmed.toList then parseError "invalid_format"
    else if ¬ options.allowNegative ∧ trimmed.toList.head? = some '-' then parseError "negative_not_allowed"
    else
      match bigInt trimmed with
      | none => parseError "invalid_format"
      | some value =>
        if options.requirePositive ∧ value ≤ 0 then parseError "must_be_positive"
        else if ¬ options.allowNegative ∧ value < 0 then parseError "negative_not_allowed"
        else if ∃ max ∈ options.max, max < value then parseError "exceeds_max"
        else ⟨true, some value, none⟩
  | some _ => parseError "invalid_type"

structure Numeral (text : String) (number : Nat) : Prop where
  nonempty : (trim text).toList ≠ []
  digits : Digits (trim text).toList
  value : Nat.ofDigitChars 10 (trim text).toList 0 = number

theorem Numeral.unique {text : String} {number number' : Nat} (numeral : Numeral text number)
    (numeral' : Numeral text number') : number = number' := numeral.value.symm.trans numeral'.value

theorem numeral_toString (number : Nat) : Numeral (toString (number : Int)) number := by
  have digits := isDigit_toDigits number
  have chars : (trim (toString (number : Int))).toList = Nat.toDigits 10 number := by
    rw [toString_natCast, trim_ofList_of_clean fun c member => isSpace_isDigit (digits c member),
      String.toList_ofList]
  constructor
  · rw [chars]
    exact Nat.toDigits_ne_nil
  · rw [chars]
    exact digits
  · rw [chars, Nat.ofDigitChars_ten_toDigits]

theorem nonNegativeIntegerPattern_iff {chars : List Char} :
    nonNegativeIntegerPattern chars = true ↔ chars ≠ [] ∧ Digits chars := by
  simp [nonNegativeIntegerPattern]

theorem parseBigIntString_numeral {text : String} {number : Nat} (numeral : Numeral text number) :
    parseBigIntString (some (.string text)) defaultOptions = ⟨true, some number, none⟩ := by
  obtain ⟨nonempty, digits, value⟩ := numeral
  have stated : trim text ≠ "" := by
    intro empty
    exact nonempty (by rw [empty]; rfl)
  have matched := nonNegativeIntegerPattern_iff.mpr ⟨nonempty, digits⟩
  have unsigned : (trim text).toList.head? ≠ some '-' := by
    intro dash
    cases digits '-' (List.mem_of_mem_head? dash)
  have read : bigInt (trim text) = some (number : Int) := by
    have whole := bigInt_digits digits nonempty
    rwa [String.ofList_toList, value] at whole
  have natural : ¬ (number : Int) < 0 := by omega
  simp [parseBigIntString, defaultOptions, stated, matched, unsigned, read, natural]

theorem parseBigIntString_other {text : String} (other : ¬ ∃ number, Numeral text number) :
    (parseBigIntString (some (.string text)) defaultOptions).valid = false := by
  by_cases empty : trim text = ""
  · simp [parseBigIntString, empty, parseError]
  · have unmatched : nonNegativeIntegerPattern (trim text).toList = false := by
      rw [Bool.eq_false_iff]
      intro matched
      obtain ⟨nonempty, digits⟩ := nonNegativeIntegerPattern_iff.mp matched
      exact other ⟨_, nonempty, digits, rfl⟩
    simp [parseBigIntString, defaultOptions, empty, unmatched, parseError]

end Delego.Utils
