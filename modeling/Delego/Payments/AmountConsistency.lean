import Delego.Payments.Validation
import Delego.Utils.ParseBigIntString

set_option autoImplicit false

namespace Delego.Payments

open Shared Shared.Text Shared.Number Utils

structure AmountConsistencyCheck where
  orderId : String
  expectedStroops : String
  requestedStroops : String
  matched : Bool
  deriving DecidableEq

structure ConsistencyError where
  error : ValidationError
  details : Option AmountConsistencyCheck
  deriving DecidableEq

def normalizeStroopsAmount (stroops : String) : String :=
  let parsed := parseBigIntString (some (.string stroops)) defaultOptions
  match parsed.valid, parsed.value with
  | true, some value => toString value
  | _, _ => trim stroops

def checkAmountConsistency (orderId expectedStroops requestedStroops : String) : AmountConsistencyCheck :=
  let normalizedExpected := normalizeStroopsAmount expectedStroops
  let normalizedRequested := normalizeStroopsAmount requestedStroops
  ⟨trim orderId, normalizedExpected, normalizedRequested, normalizedExpected = normalizedRequested⟩

def invalidAmount : ConsistencyError :=
  ⟨invalidField "amountStroops" "amountStroops must be a non-negative integer string", none⟩

def amountMismatch (check : AmountConsistencyCheck) : ConsistencyError where
  error := ⟨"ORDER_AMOUNT_MISMATCH",
    "Escrow funding amount does not match the order amount stored for the order", some "amountStroops"⟩
  details := some check

def validateAmountConsistency (orderId expectedStroops requestedStroops : String) :
    Except ConsistencyError AmountConsistencyCheck :=
  let expectedParsed := parseBigIntString (some (.string expectedStroops)) defaultOptions
  let requestedParsed := parseBigIntString (some (.string requestedStroops)) defaultOptions
  if ¬ expectedParsed.valid then .error invalidAmount
  else if ¬ requestedParsed.valid then .error invalidAmount
  else
    let check := checkAmountConsistency orderId (toString (expectedParsed.value.getD 0))
      (toString (requestedParsed.value.getD 0))
    if ¬ check.matched then .error (amountMismatch check) else .ok check

section Verdict

variable {orderId expectedStroops requestedStroops : String}

def refusal (result : Except ConsistencyError AmountConsistencyCheck) : Option String :=
  match result with
  | .ok _ => none
  | .error error => some error.error.code

theorem toString_natCast_inj {number number' : Nat} :
    toString (number : Int) = toString (number' : Int) ↔ number = number' := by
  refine ⟨fun same => ?_, fun same => by rw [same]⟩
  have numeral := numeral_toString number
  rw [same] at numeral
  exact numeral.unique (numeral_toString number')

theorem normalizeStroopsAmount_toString (number : Nat) :
    normalizeStroopsAmount (toString (number : Int)) = toString (number : Int) := by
  simp only [normalizeStroopsAmount, parseBigIntString_numeral (numeral_toString number)]

theorem validate_numerals {number number' : Nat} (expected : Numeral expectedStroops number)
    (requested : Numeral requestedStroops number') :
    validateAmountConsistency orderId expectedStroops requestedStroops =
      let check : AmountConsistencyCheck :=
        ⟨trim orderId, toString (number : Int), toString (number' : Int), number = number'⟩
      if number = number' then .ok check else .error (amountMismatch check) := by
  simp only [validateAmountConsistency, parseBigIntString_numeral expected,
    parseBigIntString_numeral requested, Option.getD_some, checkAmountConsistency,
    normalizeStroopsAmount_toString, toString_natCast_inj, not_true, if_false, decide_eq_true_eq]
  by_cases same : number = number' <;> simp [same]

theorem validate_other (other : ¬ ∃ number number', Numeral expectedStroops number ∧
    Numeral requestedStroops number') :
    validateAmountConsistency orderId expectedStroops requestedStroops = .error invalidAmount := by
  by_cases expected : ∃ number, Numeral expectedStroops number
  · obtain ⟨number, expected⟩ := expected
    have requested := parseBigIntString_other fun ⟨number', requested⟩ =>
      other ⟨number, number', expected, requested⟩
    simp [validateAmountConsistency, requested]
  · simp [validateAmountConsistency, parseBigIntString_other expected]

end Verdict

/-- The check passes exactly for two numerals of one number, which it gives back without leading zeros,
and it does not matter which of the two comes first. -/
theorem amount_consistency_numeric (orderId expectedStroops requestedStroops : String) :
    (∀ check, validateAmountConsistency orderId expectedStroops requestedStroops = .ok check ↔
      ∃ number : Nat, Numeral expectedStroops number ∧ Numeral requestedStroops number ∧
        check = ⟨trim orderId, toString number, toString number, true⟩) ∧
    refusal (validateAmountConsistency orderId expectedStroops requestedStroops) =
      refusal (validateAmountConsistency orderId requestedStroops expectedStroops) := by
  by_cases numerals : ∃ number number', Numeral expectedStroops number ∧ Numeral requestedStroops number'
  · obtain ⟨number, number', expected, requested⟩ := numerals
    rw [validate_numerals expected requested, validate_numerals requested expected]
    by_cases same : number = number'
    · cases same
      refine ⟨fun check => ?_, rfl⟩
      simp only [if_true, Except.ok.injEq, decide_true]
      constructor
      · rintro rfl
        exact ⟨number, expected, requested, rfl⟩
      · rintro ⟨number', expected', _, rfl⟩
        rw [expected.unique expected']
        rfl
    · simp only [if_neg same, if_neg (Ne.symm same)]
      refine ⟨fun check => ⟨nofun, ?_⟩, rfl⟩
      rintro ⟨shared, expected', requested', _⟩
      exact absurd ((expected.unique expected').trans (requested'.unique requested)) same
  · rw [validate_other numerals, validate_other fun ⟨number, number', requested, expected⟩ =>
      numerals ⟨number', number, expected, requested⟩]
    refine ⟨fun check => ⟨nofun, ?_⟩, rfl⟩
    rintro ⟨number, expected, requested, _⟩
    exact absurd ⟨number, number, expected, requested⟩ numerals

end Delego.Payments
