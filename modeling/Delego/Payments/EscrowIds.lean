import Delego.Payments.Memos
import Delego.Shared.Precision

set_option autoImplicit false

namespace Delego.Payments

open Shared Text Number

def Denotes (escrowId : String) : Prop :=
  ∀ value, requireEscrowId escrowId = .ok value → ∃ id < 2 ^ 64, escrowId = toString id ∧
    parseEscrowId value = .ok (.finite (id : Nat))

def Apart (escrowId escrowId' : String) : Prop :=
  escrowId ≠ escrowId' → ∀ value value', requireEscrowId escrowId = .ok value →
    requireEscrowId escrowId' = .ok value' → parseEscrowId value ≠ parseEscrowId value'

/-- A string that is rejected, or the decimal form of an id that a double has room for. -/
def Unmistakable (escrowId : String) : Prop :=
  (∃ thrown, requireEscrowId escrowId = .error thrown) ∨
    ∃ id < 2 ^ 64, escrowId = toString id ∧ Fits id

section Ids

variable {escrowId escrowId' value : String} {id : Nat}

theorem finite_of_u64 (small : id < 2 ^ 64) : id < 2 ^ 1024 := by
  have wider : 2 ^ 64 < 2 ^ 1024 := pow_lt_pow_right₀ one_lt_two (by omega)
  exact Nat.lt_trans small wider

theorem requireEscrowId_value (accepted : requireEscrowId escrowId = .ok value) :
    value = trim escrowId ∧ parseEscrowId value = .ok (ofText (trim escrowId)) := by
  obtain ⟨rfl, _, _⟩ := requireEscrowId_text accepted
  refine ⟨rfl, ?_⟩
  obtain ⟨number, parsed⟩ := requireEscrowId_ok accepted
  unfold parseEscrowId at parsed ⊢
  dsimp only at parsed ⊢
  split at parsed
  · cases parsed
  · next whole => rw [if_neg whole]

theorem requireEscrowId_fits (small : id < 2 ^ 64) (fits : Fits id) :
    requireEscrowId (toString id) = .ok (toString id) ∧
      parseEscrowId (toString id) = .ok (.finite (id : Nat)) := by
  have bound := finite_of_u64 small
  have read : ofText (toString id) = .finite id := by
    rw [ofText_toString, nearest_iff bound]
    exact fits
  have natural : ¬ (¬ (Number.finite (id : Rat)).isInteger = true ∨
      (Number.finite (id : Rat)).negative = true) := by
    simp [isInteger, negative]
  have stated : toString id ≠ "" := Nat.repr_ne_empty
  constructor
  · simp only [requireEscrowId, trim_toString, stated, read, natural, if_false]
  · simp only [parseEscrowId, read, natural, if_false]

theorem denotes_iff : Denotes escrowId ↔ Unmistakable escrowId := by
  constructor
  · intro denotes
    cases accepted : requireEscrowId escrowId with
    | error thrown => exact .inl ⟨thrown, accepted⟩
    | ok value =>
      obtain ⟨id, small, rfl, parsed⟩ := denotes value accepted
      have bound := finite_of_u64 small
      rw [(requireEscrowId_value accepted).2, trim_toString, ofText_toString] at parsed
      exact .inr ⟨id, small, rfl, (nearest_iff bound).mp (Except.ok.inj parsed)⟩
  · rintro (⟨thrown, rejected⟩ | ⟨id, small, rfl, fits⟩) value accepted
    · rw [rejected] at accepted
      cases accepted
    · obtain ⟨accepts, parsed⟩ := requireEscrowId_fits small fits
      rw [accepts] at accepted
      cases accepted
      exact ⟨id, small, rfl, parsed⟩

theorem Denotes.apart (denotes : Denotes escrowId) (denotes' : Denotes escrowId') :
    Apart escrowId escrowId' := by
  intro different value value' accepted accepted' same
  obtain ⟨id, _, rfl, parsed⟩ := denotes value accepted
  obtain ⟨id', _, rfl, parsed'⟩ := denotes' value' accepted'
  rw [parsed, parsed'] at same
  have equal : id = id' := by exact_mod_cast Number.finite.inj (Except.ok.inj same)
  exact different (by rw [equal])

/-- Two strings stand for their own ids exactly when neither can be mistaken for another id. -/
theorem escrowIds_denote_iff (escrowId escrowId' : String) :
    (Denotes escrowId ∧ Denotes escrowId' ∧ Apart escrowId escrowId') ↔
      Unmistakable escrowId ∧ Unmistakable escrowId' := by
  rw [← denotes_iff, ← denotes_iff]
  constructor
  · rintro ⟨denotes, denotes', _⟩
    exact ⟨denotes, denotes'⟩
  · rintro ⟨denotes, denotes'⟩
    exact ⟨denotes, denotes', denotes.apart denotes'⟩

/-- Two ids that differ in the last digit of 2 ^ 53 settle one escrow. -/
theorem neighbours_mistaken :
    ¬ Denotes "9007199254740993" ∧ ¬ Apart "9007199254740992" "9007199254740993" := by
  have accepted : requireEscrowId "9007199254740992" = .ok "9007199254740992" ∧
      parseEscrowId "9007199254740992" = .ok (.finite 9007199254740992) := by
    decide +kernel
  have accepted' : requireEscrowId "9007199254740993" = .ok "9007199254740993" ∧
      parseEscrowId "9007199254740993" = .ok (.finite 9007199254740992) := by
    decide +kernel
  constructor
  · intro denotes
    obtain ⟨id, _, written, parsed⟩ := denotes _ accepted'.1
    rw [accepted'.2] at parsed
    have read : 9007199254740992 = id := by exact_mod_cast Number.finite.inj (Except.ok.inj parsed)
    cases read
    revert written
    decide
  · intro apart
    exact apart (by decide) _ _ accepted.1 accepted'.1 (by rw [accepted.2, accepted'.2])

end Ids

end Delego.Payments
