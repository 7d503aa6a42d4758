import Delego.Shared.Digits

set_option autoImplicit false

namespace Delego.Utils

open Shared Shared.Text Shared.Number

def stroopsPerXlm : Int := 10000000

-- Division and remainder of the language round toward zero.
def stroopsToDisplay (stroops : Int) (decimals : Nat) : String :=
  let whole := stroops.tdiv stroopsPerXlm
  let fraction := stroops.tmod stroopsPerXlm
  let fractionStr := slice decimals (padStart 7 (toString fraction))
  toString whole ++ "." ++ fractionStr

/-- It is none where one of the conversions throws. -/
def displayToStroops (amount : String) : Option Int := do
  let parts := split '.' amount
  let whole := parts[0]?.getD "0"
  let fraction := parts[1]?.getD ""
  let paddedFraction := slice 7 (fraction ++ "0000000")
  let whole ← bigInt whole
  let fraction ← bigInt paddedFraction
  some (whole * stroopsPerXlm + fraction)

theorem toString_pointless (value : Int) : '.' ∉ (toString value).toList := by
  have digits (number : Nat) : '.' ∉ Nat.toDigits 10 number := by
    intro member
    cases isDigit_toDigits number '.' member
  cases value with
  | ofNat number =>
    change '.' ∉ (toString (number : Int)).toList
    rw [toString_natCast, String.toList_ofList]
    exact digits number
  | negSucc number =>
    rw [toString_negSucc, String.toList_ofList]
    rintro (_ | ⟨_, member⟩)
    exact digits _ member

theorem slice_padded {chars : List Char} (seven : chars.length = 7) :
    slice 7 (String.ofList chars ++ "0000000") = String.ofList chars := by
  rw [slice, String.toList_append, String.toList_ofList, ← seven, List.take_left]

section RoundTrip

variable {chars : List Char}

theorem displayToStroops_seven (whole : Int) (pointless : '.' ∉ chars) (seven : chars.length = 7) :
    displayToStroops (toString whole ++ "." ++ String.ofList chars) =
      (bigInt (String.ofList chars)).map fun fraction => whole * stroopsPerXlm + fraction := by
  have text : toString whole ++ "." ++ String.ofList chars =
      String.ofList ((toString whole).toList ++ '.' :: chars) := by
    rw [← String.toList_inj]
    simp
  have parts : split '.' (toString whole ++ "." ++ String.ofList chars) =
      [toString whole, String.ofList chars] := by
    rw [text, split_cons (toString_pointless whole), split_single pointless, String.ofList_toList]
  simp only [displayToStroops, parts, List.getElem?_cons_zero, List.getElem?_cons_succ, Option.getD_some,
    slice_padded seven, bigInt_toString, Option.bind_eq_bind, Option.bind_some]
  cases bigInt (String.ofList chars) <;> rfl

theorem padStart_ofList (width : Nat) (chars : List Char) : padStart width (String.ofList chars) =
    String.ofList (List.replicate (width - chars.length) '0' ++ chars) := by
  rw [← String.toList_inj, padStart]
  simp

-- What is shown after the point: seven characters, which are read as the fraction or not.
structure Shown (fraction : Int) (chars : List Char) : Prop where
  slice : slice 7 (padStart 7 (toString fraction)) = String.ofList chars
  seven : chars.length = 7
  pointless : '.' ∉ chars

theorem shown_nonneg {number : Nat} (small : number < 10 ^ 7) :
    ∃ chars, Shown number chars ∧ bigInt (String.ofList chars) = some (number : Int) := by
  have digits := isDigit_toDigits number
  have short : (Nat.toDigits 10 number).length ≤ 7 :=
    (Nat.length_toDigits_le_iff (by decide) (by decide)).mpr small
  have padded : Digits (List.replicate (7 - (Nat.toDigits 10 number).length) '0' ++ Nat.toDigits 10 number) :=
    (digits_zeros _).append digits
  have seven : (List.replicate (7 - (Nat.toDigits 10 number).length) '0' ++
      Nat.toDigits 10 number).length = 7 := by
    rw [List.length_append, List.length_replicate]
    omega
  refine ⟨_, ⟨?_, seven, ?_⟩, ?_⟩
  · rw [toString_natCast, padStart_ofList, Text.slice, String.toList_ofList, List.take_of_length_le seven.le]
  · intro member
    cases padded '.' member
  · rw [bigInt_digits padded (by simp), Nat.ofDigitChars_append, Nat.ofDigitChars_replicate_zero,
      Nat.mul_zero, Nat.ofDigitChars_ten_toDigits]

theorem toString_neg {number : Nat} (positive : 0 < number) :
    toString (-(number : Int)) = String.ofList ('-' :: Nat.toDigits 10 number) := by
  cases number with
  | zero => cases positive
  | succ number => exact toString_negSucc number

-- The sign and the digits of a negative fraction, as far as there is room for them.
def negativeShown (number : Nat) : List Char :=
  (List.replicate (6 - (Nat.toDigits 10 number).length) '0' ++ '-' :: Nat.toDigits 10 number).take 7

theorem shown_negative {number : Nat} (positive : 0 < number) :
    Shown (-number) (negativeShown number) := by
  have width : 7 - ('-' :: Nat.toDigits 10 number).length = 6 - (Nat.toDigits 10 number).length := by
    simp only [List.length_cons]
    omega
  refine ⟨?_, ?_, ?_⟩
  · rw [toString_neg positive, padStart_ofList, width, Text.slice, String.toList_ofList, negativeShown]
  · simp only [negativeShown, List.length_take, List.length_append, List.length_replicate, List.length_cons]
    omega
  · intro member
    rcases List.mem_append.mp (List.mem_of_mem_take member) with zero | shown
    · cases List.eq_of_mem_replicate zero
    · cases isDigit_toDigits number '.' (List.mem_of_ne_of_mem (by decide) shown)

theorem negativeShown_short {number : Nat} (short : (Nat.toDigits 10 number).length ≤ 5) :
    bigInt (String.ofList (negativeShown number)) = none := by
  have whole : (List.replicate (6 - (Nat.toDigits 10 number).length) '0' ++
      '-' :: Nat.toDigits 10 number).length ≤ 7 := by
    simp only [List.length_append, List.length_replicate, List.length_cons]
    omega
  obtain ⟨zeros, more⟩ : ∃ zeros, 6 - (Nat.toDigits 10 number).length = zeros + 1 :=
    ⟨5 - (Nat.toDigits 10 number).length, by omega⟩
  rw [negativeShown, List.take_of_length_le whole, more, List.replicate_succ, List.cons_append]
  by_contra some
  have literal := bigInt_isSome.mp (Option.isSome_iff_ne_none.mpr some)
  have clean : ∀ c ∈ '0' :: (List.replicate zeros '0' ++ '-' :: Nat.toDigits 10 number),
      isSpace c = false := by
    simp only [List.forall_mem_cons, List.forall_mem_append]
    refine ⟨rfl, ?_, rfl, fun c digit => isSpace_isDigit (isDigit_toDigits number c digit)⟩
    intro c zero
    rw [List.eq_of_mem_replicate zero]
    rfl
  rw [trim_ofList_of_clean clean, String.toList_ofList] at literal
  exact literal.dashless (List.mem_append_right _ List.mem_cons_self)

theorem negativeShown_six {number : Nat} (six : (Nat.toDigits 10 number).length = 6) :
    bigInt (String.ofList (negativeShown number)) = some (-(number : Int)) := by
  have read := bigInt_negative (isDigit_toDigits number) Nat.toDigits_ne_nil
  rw [Nat.ofDigitChars_ten_toDigits] at read
  rw [negativeShown, six, Nat.sub_self, List.replicate_zero, List.nil_append,
    List.take_of_length_le (by simp [six]), read]

theorem negativeShown_seven {number : Nat} (seven : (Nat.toDigits 10 number).length = 7) :
    bigInt (String.ofList (negativeShown number)) = some (-((number / 10 : Nat) : Int)) := by
  have digits : Digits (Nat.toDigits 10 number) := isDigit_toDigits number
  have nonempty : (Nat.toDigits 10 number).take 6 ≠ [] := by simp
  have read := bigInt_negative (digits.take 6) nonempty
  rw [ofDigitChars_take digits, Nat.ofDigitChars_ten_toDigits, seven] at read
  rw [negativeShown, seven, List.replicate_zero, List.nil_append, List.take_succ_cons, read]
  rfl

theorem negativeShown_iff {number : Nat} (positive : 0 < number) (small : number < 10 ^ 7) :
    bigInt (String.ofList (negativeShown number)) = some (-(number : Int)) ↔
      10 ^ 5 ≤ number ∧ number < 10 ^ 6 := by
  have size (width : Nat) (some : 0 < width) : (Nat.toDigits 10 number).length ≤ width ↔ number < 10 ^ width :=
    Nat.length_toDigits_le_iff (by decide) some
  have five := size 5 (by decide)
  have six := size 6 (by decide)
  have seven := size 7 (by decide)
  by_cases short : (Nat.toDigits 10 number).length ≤ 5
  · rw [negativeShown_short short]
    simp only [reduceCtorEq, false_iff, not_and, not_lt]
    omega
  · by_cases full : (Nat.toDigits 10 number).length ≤ 6
    · rw [negativeShown_six (by omega)]
      simp only [true_iff]
      omega
    · rw [negativeShown_seven (by omega)]
      simp only [Option.some.injEq]
      omega

end RoundTrip

/-- The display of an amount is read back, unless the amount is negative with a fraction that is not
written with six digits. -/
theorem display_round_trips_iff (stroops : Int) :
    displayToStroops (stroopsToDisplay stroops 7) = some stroops ↔
      0 ≤ stroops ∨ stroops.natAbs % 10 ^ 7 = 0 ∨
        10 ^ 5 ≤ stroops.natAbs % 10 ^ 7 ∧ stroops.natAbs % 10 ^ 7 < 10 ^ 6 := by
  have size : (stroops.tmod stroopsPerXlm).natAbs = stroops.natAbs % 10 ^ 7 := Int.natAbs_tmod ..
  have parts : stroops.tdiv stroopsPerXlm * stroopsPerXlm + stroops.tmod stroopsPerXlm = stroops := by
    rw [Int.mul_comm]
    exact Int.mul_tdiv_add_tmod ..
  have small : stroops.natAbs % 10 ^ 7 < 10 ^ 7 := Nat.mod_lt _ (by decide)
  have read {chars : List Char} (shown : Shown (stroops.tmod stroopsPerXlm) chars) :
      displayToStroops (stroopsToDisplay stroops 7) = some stroops ↔
        bigInt (String.ofList chars) = some (stroops.tmod stroopsPerXlm) := by
    have whole := displayToStroops_seven (stroops.tdiv stroopsPerXlm) shown.pointless shown.seven
    rw [← shown.slice] at whole
    rw [stroopsToDisplay, whole, shown.slice]
    cases bigInt (String.ofList chars) with
    | none => simp
    | some fraction =>
      simp only [Option.map_some, Option.some.injEq]
      omega
  generalize stroops.natAbs % 10 ^ 7 = number at size small
  by_cases sign : 0 ≤ stroops.tmod stroopsPerXlm
  · have value : stroops.tmod stroopsPerXlm = number := by omega
    obtain ⟨chars, shown, fraction⟩ := shown_nonneg small
    rw [← value] at shown
    rw [read shown, value]
    refine ⟨fun _ => ?_, fun _ => fraction⟩
    by_cases negative : stroops < 0
    · have below := Int.tmod_nonneg stroopsPerXlm (Int.neg_nonneg_of_nonpos negative.le)
      rw [Int.neg_tmod] at below
      exact .inr (.inl (by omega))
    · exact .inl (by omega)
  · have value : stroops.tmod stroopsPerXlm = -number := by omega
    have shown := shown_negative (show 0 < number by omega)
    rw [← value] at shown
    rw [read shown, value, negativeShown_iff (by omega) small]
    have negative : ¬ 0 ≤ stroops := fun nonneg => sign (Int.tmod_nonneg stroopsPerXlm nonneg)
    omega

theorem negative_display_unread : ¬ displayToStroops (stroopsToDisplay (-5) 7) = some (-5) := by
  decide +kernel

section Amounts

variable (negative : Bool) (decimal : Decimal)

/-- An amount as it is written: a numeral, possibly after a minus sign. -/
def amountChars : List Char := if negative then '-' :: decimal.chars else decimal.chars

def denoted : Rat := if negative then -decimal.value else decimal.value

def truncated (value : Rat) : Int := if 0 ≤ value then ⌊value⌋ else ⌈value⌉

-- The sign goes with the whole part alone.
def readAs : Int :=
  (if negative then -(Nat.ofDigitChars 10 decimal.whole 0 : Int) else Nat.ofDigitChars 10 decimal.whole 0) *
    stroopsPerXlm + decimal.rest 7

theorem truncated_denoted : truncated (denoted negative decimal * 10 ^ 7) =
    if negative then -(decimal.scaled 7 : Int) else decimal.scaled 7 := by
  have nonneg : 0 ≤ decimal.value * 10 ^ 7 := by
    rw [Decimal.value]
    positivity
  have floor := decimal.floor_value 7
  cases negative with
  | false => simp only [denoted, truncated, Bool.false_eq_true, if_false, if_pos nonneg, floor]
  | true =>
    simp only [denoted, truncated, if_true, neg_mul, Int.ceil_neg, floor]
    by_cases zero : decimal.value * 10 ^ 7 = 0
    · rw [zero, Int.floor_zero] at floor
      rw [zero, if_pos (by norm_num), neg_zero, Int.floor_zero, ← floor, neg_zero]
    · rw [if_neg]
      intro below
      exact zero (le_antisymm (by linarith) nonneg)

theorem amount_parts :
    (split '.' (String.ofList (amountChars negative decimal)))[0]? =
        some (String.ofList (if negative then '-' :: decimal.whole else decimal.whole)) ∧
      ((split '.' (String.ofList (amountChars negative decimal)))[1]?).getD "" =
        String.ofList decimal.places := by
  have pointless {digits : List Char} (all : Digits digits) : '.' ∉ digits := by
    intro member
    cases all '.' member
  have front : '.' ∉ (if negative then '-' :: decimal.whole else decimal.whole) := by
    cases negative with
    | false => exact pointless decimal.whole_digits.2
    | true => exact List.not_mem_cons_of_ne_of_not_mem (by decide) (pointless decimal.whole_digits.2)
  cases fraction : decimal.fraction with
  | none =>
    have whole : amountChars negative decimal =
        if negative then '-' :: decimal.whole else decimal.whole := by
      simp [amountChars, Decimal.chars, fraction]
    rw [whole, split_single front]
    simp [Decimal.places, fraction]
  | some digits =>
    have whole : amountChars negative decimal =
        (if negative then '-' :: decimal.whole else decimal.whole) ++ '.' :: digits := by
      cases negative <;> simp [amountChars, Decimal.chars, fraction]
    rw [whole, split_cons front, split_single (pointless (decimal.fraction_digits digits fraction).2)]
    simp [Decimal.places, fraction]

theorem displayToStroops_amount :
    displayToStroops (String.ofList (amountChars negative decimal)) = some (readAs negative decimal) := by
  obtain ⟨whole, fraction⟩ := amount_parts negative decimal
  obtain ⟨nonempty, digits⟩ := decimal.whole_digits
  have read : bigInt (String.ofList (if negative then '-' :: decimal.whole else decimal.whole)) =
      some (if negative then -(Nat.ofDigitChars 10 decimal.whole 0 : Int)
        else Nat.ofDigitChars 10 decimal.whole 0) := by
    cases negative with
    | false => exact bigInt_digits digits nonempty
    | true => exact bigInt_negative digits nonempty
  have padded : slice 7 (String.ofList decimal.places ++ "0000000") =
      String.ofList ((decimal.places ++ List.replicate 7 '0').take 7) := by
    rw [slice, String.toList_append, String.toList_ofList]
    rfl
  have rest : bigInt (slice 7 (String.ofList decimal.places ++ "0000000")) = some (decimal.rest 7 : Int) := by
    rw [padded, bigInt_digits ((decimal.places_digits.append (digits_zeros 7)).take 7) (by simp),
      decimal.rest_eq_padded]
  simp only [displayToStroops, whole, fraction, Option.getD_some, read, rest, Option.bind_eq_bind,
    Option.bind_some, readAs]

end Amounts

def Denotes (amount : String) (stroops : Int) : Prop :=
  ∃ negative decimal, amount.toList = amountChars negative decimal ∧
    stroops = truncated (denoted negative decimal * 10 ^ 7)

/-- Amounts are read as what they denote, and nothing else is read. -/
def ParsedExactly (amount : String) : Prop :=
  ∀ stroops, displayToStroops amount = some stroops ↔ Denotes amount stroops

section Parsing

variable {amount : String}

def wholePart (amount : String) : String := (split '.' amount)[0]?.getD "0"

def paddedPart (amount : String) : String := slice 7 ((split '.' amount)[1]?.getD "" ++ "0000000")

/-- The string is an amount, without a minus sign or with zeros as the first seven digits of its fraction;
or it is none, and one of its two parts is no integer of the language either. -/
def Readable (amount : String) : Prop :=
  (∃ negative decimal, amount.toList = amountChars negative decimal ∧
    (negative = true → ∀ c ∈ decimal.places.take 7, c = '0')) ∨
  (¬ ∃ negative decimal, amount.toList = amountChars negative decimal) ∧
    ¬ (IntegerLiteral (trim (wholePart amount)).toList ∧ IntegerLiteral (trim (paddedPart amount)).toList)

theorem displayToStroops_isSome : (displayToStroops amount).isSome = true ↔
    IntegerLiteral (trim (wholePart amount)).toList ∧ IntegerLiteral (trim (paddedPart amount)).toList := by
  rw [← bigInt_isSome, ← bigInt_isSome]
  change (bigInt (wholePart amount) >>= fun whole => bigInt (paddedPart amount) >>= fun fraction =>
    some (whole * stroopsPerXlm + fraction)).isSome = true ↔ _
  cases bigInt (wholePart amount) with
  | none => simp
  | some whole => cases bigInt (paddedPart amount) <;> simp

theorem readAs_eq_truncated {negative : Bool} {decimal : Decimal} :
    readAs negative decimal = truncated (denoted negative decimal * 10 ^ 7) ↔
      (negative = true → ∀ c ∈ decimal.places.take 7, c = '0') := by
  rw [truncated_denoted, ← decimal.rest_eq_zero, readAs, Decimal.scaled, stroopsPerXlm]
  cases negative with
  | false => simp
  | true =>
    simp only [if_true, forall_const]
    push_cast
    omega

theorem dashless (decimal : Decimal) (rest : List Char) : decimal.chars ≠ '-' :: rest := by
  obtain ⟨nonempty, digits⟩ := decimal.whole_digits
  cases whole : decimal.whole with
  | nil => exact absurd whole nonempty
  | cons c more =>
    rw [whole] at digits
    intro dash
    have first : c = '-' := by
      cases fraction : decimal.fraction with
      | none =>
        rw [Decimal.chars, fraction, whole] at dash
        exact (List.cons.inj dash).1
      | some places =>
        rw [Decimal.chars, fraction, whole] at dash
        exact (List.cons.inj dash).1
    rw [first] at digits
    cases digits '-' List.mem_cons_self

theorem amountChars_value {negative negative' : Bool} {decimal decimal' : Decimal}
    (same : amountChars negative decimal = amountChars negative' decimal') :
    truncated (denoted negative decimal * 10 ^ 7) = truncated (denoted negative' decimal' * 10 ^ 7) := by
  have values := displayToStroops_amount negative decimal
  rw [same, displayToStroops_amount, Option.some.injEq, readAs, readAs, stroopsPerXlm] at values
  have small := decimal.rest_lt 7
  have small' := decimal'.rest_lt 7
  rw [truncated_denoted, truncated_denoted, Decimal.scaled, Decimal.scaled]
  cases negative with
  | false =>
    cases negative' with
    | false =>
      simp only [Bool.false_eq_true, if_false] at values ⊢
      push_cast
      omega
    | true => exact absurd same (dashless decimal _)
  | true =>
    cases negative' with
    | false => exact absurd same.symm (dashless decimal' _)
    | true =>
      simp only [if_true] at values ⊢
      push_cast
      omega

theorem parsed_exactly_iff (amount : String) : ParsedExactly amount ↔ Readable amount := by
  have read {negative : Bool} {decimal : Decimal} (chars : amount.toList = amountChars negative decimal) :
      displayToStroops amount = some (readAs negative decimal) := by
    rw [← displayToStroops_amount, ← chars, String.ofList_toList]
  constructor
  · intro exactly
    by_cases written : ∃ negative decimal, amount.toList = amountChars negative decimal
    · obtain ⟨negative, decimal, chars⟩ := written
      have denotes := (exactly _).mpr ⟨negative, decimal, chars, rfl⟩
      rw [read chars, Option.some.injEq, readAs_eq_truncated] at denotes
      exact .inl ⟨negative, decimal, chars, denotes⟩
    · refine .inr ⟨written, fun literals => ?_⟩
      obtain ⟨stroops, value⟩ := Option.isSome_iff_exists.mp (displayToStroops_isSome.mpr literals)
      obtain ⟨negative, decimal, chars, _⟩ := (exactly stroops).mp value
      exact written ⟨negative, decimal, chars⟩
  · rintro (⟨negative, decimal, chars, zeros⟩ | ⟨unwritten, unread⟩) stroops
    · rw [read chars, readAs_eq_truncated.mpr zeros, Option.some.injEq]
      constructor
      · rintro rfl
        exact ⟨negative, decimal, chars, rfl⟩
      · rintro ⟨negative', decimal', chars', rfl⟩
        exact amountChars_value (chars.symm.trans chars')
    · constructor
      · intro value
        exact absurd (displayToStroops_isSome.mp (Option.isSome_of_eq_some value)) unread
      · rintro ⟨negative, decimal, chars, _⟩
        exact absurd ⟨negative, decimal, chars⟩ unwritten

def oneAndHalf : Decimal where
  whole := ['1']
  fraction := some ['5']
  whole_digits := by simp [Digits]
  fraction_digits := by simp [Digits]

theorem negative_amount_misread : ¬ ParsedExactly "-1.5" := by
  intro exactly
  have denotes : Denotes "-1.5" (-15000000) := by
    refine ⟨true, oneAndHalf, by decide, ?_⟩
    rw [truncated_denoted]
    decide +kernel
  have value := (exactly (-15000000)).mpr denotes
  have other : displayToStroops "-1.5" = some (-5000000) := by decide +kernel
  rw [other] at value
  cases value

end Parsing

end Delego.Utils
