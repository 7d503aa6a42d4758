import Delego.Escrow.Settlement

set_option autoImplicit false

namespace Delego.Escrow

open Shared Soroban Tx

variable {host : Host} {chain : Chain host} {env : Env} {s : Storage} {escrowId : U64}
  {caller : Address}

theorem refund_succeeds_iff (signed : caller ∈ env.signers)
    (payable : ∀ record, chain.storage.escrow escrowId = some record → BuyerPayable chain record) :
    Succeeds chain env (.refund escrowId caller) ↔
      ∃ record, chain.storage.escrow escrowId = some record ∧ record.status = .funded ∧
        (caller = record.seller ∨ isAdmin chain.storage caller = true ∨
          (caller = record.buyer ∧ record.timeoutLedger.toInt ≤ env.sequence.toInt)) := by
  simp only [succeeds_iff, perform, yields_map, refund_yields]
  constructor
  · intro succeeds
    obtain ⟨_, _, _, ⟨_, record, found, funded, entitled, _⟩, _⟩ := succeeds
    exact ⟨record, found, funded, entitled⟩
  · intro allowed
    obtain ⟨record, found, funded, entitled⟩ := allowed
    obtain ⟨middle, paid⟩ := payToBuyer_succeeds (payable record found)
    exact ⟨_, _, true, ⟨signed, record, found, funded, entitled, (), middle, paid, rfl, rfl⟩, rfl⟩

theorem refund_eligible_iff : (getRefundEligibility env s escrowId caller).eligible = true ↔
    ∃ record, s.escrow escrowId = some record ∧ record.status = .funded ∧
      (caller = record.seller ∨ isAdmin s caller = true ∨
        (caller = record.buyer ∧ record.timeoutLedger.toInt ≤ env.sequence.toInt)) := by
  unfold getRefundEligibility
  cases found : s.escrow escrowId with
  | none => simp
  | some record =>
    cases status : record.status with
    | released | refunded | disputed => simp [status]
    | funded =>
      by_cases anyTime : caller = record.seller ∨ isAdmin s caller = true
      · simp [status, anyTime, ← or_assoc]
      · by_cases buyer : caller = record.buyer
        · subst buyer
          by_cases late : record.timeoutLedger.toInt ≤ env.sequence.toInt
          · simp [status, anyTime, late]
          · simp [status, anyTime, late, ← or_assoc]
        · simp [status, anyTime, buyer, ← or_assoc]

/-- The refund query answers exactly as the refund itself would. -/
theorem refundEligibility_agrees (host : Host) (ledger : host.Ledger) (inputs : List (Input host))
    (env : Env) (escrowId : U64) (caller : Address) (signed : caller ∈ env.signers)
    (payable : ∀ record,
      (Run.final (step host) (deployed ledger) inputs).storage.escrow escrowId = some record →
        BuyerPayable (Run.final (step host) (deployed ledger) inputs) record) :
    (getRefundEligibility env (Run.final (step host) (deployed ledger) inputs).storage
        escrowId caller).eligible = true ↔
      Succeeds (Run.final (step host) (deployed ledger) inputs) env (.refund escrowId caller) := by
  rw [refund_eligible_iff, refund_succeeds_iff signed payable]

theorem refundEligibility_agrees_sample :
    (getRefundEligibility (sampleEnv (.lit 20) (.sample 4)) sampleOpen.storage (.lit 1)
        (.sample 4)).eligible = true ↔
      Succeeds sampleOpen (sampleEnv (.lit 20) (.sample 4)) (.refund (.lit 1) (.sample 4)) :=
  refundEligibility_agrees sampleHost sampleLedger (sampleInputs.drop 1)
    (sampleEnv (.lit 20) (.sample 4)) (.lit 1) (.sample 4) (by decide)
    (sampleOpen_forall sampleOpen_buyerPayable)

theorem release_succeeds_iff (formed : WellFormed chain.storage)
    (divisible : Divisible chain.storage) (signed : caller ∈ env.signers)
    (entitled : ∀ record, chain.storage.escrow escrowId = some record →
      caller = record.buyer ∨ isAdmin chain.storage caller = true)
    (payable : ∀ record, chain.storage.escrow escrowId = some record → SellerPayable chain record) :
    Succeeds chain env (.release escrowId caller) ↔
      ∃ record, chain.storage.escrow escrowId = some record ∧ record.status = .funded := by
  simp only [succeeds_iff, perform, yields_map, release_yields]
  constructor
  · intro succeeds
    obtain ⟨_, _, _, ⟨_, record, found, _, funded, _⟩, _⟩ := succeeds
    exact ⟨record, found, funded⟩
  · intro held
    obtain ⟨record, found, funded⟩ := held
    have admitted := or_iff_not_imp_left.mp (entitled record found)
    obtain ⟨sellerAmount, middle, paid⟩ :=
      payToSeller_succeeds formed divisible found (payable record found)
    exact ⟨_, _, true,
      ⟨signed, record, found, admitted, funded, sellerAmount, middle, paid, rfl, rfl⟩, rfl⟩

theorem release_eligible_iff : (getReleaseEligibility env s escrowId).eligible = true ↔
    ∃ record, s.escrow escrowId = some record ∧ record.status = .funded ∧
      env.sequence.toInt < record.timeoutLedger.toInt := by
  unfold getReleaseEligibility releaseBlockReason
  cases found : s.escrow escrowId with
  | none => simp
  | some record =>
    cases status : record.status with
    | released | refunded | disputed => simp [status]
    | funded =>
      by_cases late : record.timeoutLedger.toInt ≤ env.sequence.toInt
      · simp [status, late]
      · simp [status, late, Int.not_le.mp late]

/-- The release query and the release itself disagree exactly about a funded escrow whose timeout
ledger has come: the query refuses it, and the release pays it out. -/
theorem releaseEligibility_agrees_iff (host : Host) (ledger : host.Ledger)
    (inputs : List (Input host)) (env : Env) (escrowId : U64) (caller : Address)
    (signed : caller ∈ env.signers)
    (entitled : ∀ record,
      (Run.final (step host) (deployed ledger) inputs).storage.escrow escrowId = some record →
        caller = record.buyer ∨
          isAdmin (Run.final (step host) (deployed ledger) inputs).storage caller = true)
    (payable : ∀ record,
      (Run.final (step host) (deployed ledger) inputs).storage.escrow escrowId = some record →
        SellerPayable (Run.final (step host) (deployed ledger) inputs) record) :
    ((getReleaseEligibility env (Run.final (step host) (deployed ledger) inputs).storage
        escrowId).eligible = true ↔
      Succeeds (Run.final (step host) (deployed ledger) inputs) env (.release escrowId caller)) ↔
    ¬ ∃ record,
      (Run.final (step host) (deployed ledger) inputs).storage.escrow escrowId = some record ∧
        record.status = .funded ∧ record.timeoutLedger.toInt ≤ env.sequence.toInt := by
  rw [release_eligible_iff, release_succeeds_iff (final_wellFormed ledger inputs)
    (final_divisible ledger inputs) signed entitled payable]
  constructor
  · intro agrees late
    obtain ⟨record, found, funded, reached⟩ := late
    obtain ⟨same, present, _, early⟩ := agrees.mpr ⟨record, found, funded⟩
    cases found.symm.trans present
    omega
  · intro early
    constructor
    · intro eligible
      obtain ⟨record, found, funded, _⟩ := eligible
      exact ⟨record, found, funded⟩
    · intro held
      obtain ⟨record, found, funded⟩ := held
      refine ⟨record, found, funded, Int.not_le.mp ?_⟩
      intro reached
      exact early ⟨record, found, funded, reached⟩

theorem releaseEligibility_agrees_iff_sample :
    ((getReleaseEligibility (sampleEnv (.lit 20) (.sample 3)) sampleOpen.storage
        (.lit 1)).eligible = true ↔
      Succeeds sampleOpen (sampleEnv (.lit 20) (.sample 3)) (.release (.lit 1) (.sample 3))) ↔
    ¬ ∃ record, sampleOpen.storage.escrow (.lit 1) = some record ∧
      record.status = .funded ∧ record.timeoutLedger.toInt ≤ 20 :=
  releaseEligibility_agrees_iff sampleHost sampleLedger (sampleInputs.drop 1)
    (sampleEnv (.lit 20) (.sample 3)) (.lit 1) (.sample 3) (by decide)
    (sampleOpen_forall (.inl rfl)) (sampleOpen_forall sampleOpen_sellerPayable)

-- At the timeout ledger itself the query says "timeout", and the buyer's release goes through.
theorem release_at_timeout :
    sampleOpen.storage.escrow (.lit 1) = some sampleEscrow ∧ sampleEscrow.buyer = .sample 3 ∧
      SellerPayable sampleOpen sampleEscrow ∧
      (getReleaseEligibility (sampleEnv (.lit 110) (.sample 3)) sampleOpen.storage
        (.lit 1)).reason = "timeout" ∧
      ¬ ((getReleaseEligibility (sampleEnv (.lit 110) (.sample 3)) sampleOpen.storage
          (.lit 1)).eligible = true ↔
        Succeeds sampleOpen (sampleEnv (.lit 110) (.sample 3)) (.release (.lit 1) (.sample 3))) := by
  refine ⟨sampleOpen_escrow, rfl, sampleOpen_sellerPayable, by decide, ?_⟩
  intro agrees
  have eligible := agrees.mpr ⟨_, _, rfl⟩
  exact absurd eligible (by decide)

end Delego.Escrow
