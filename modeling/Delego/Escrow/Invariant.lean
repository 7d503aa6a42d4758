import Delego.Escrow.Fee
import Delego.Escrow.Step

set_option autoImplicit false

namespace Delego.Escrow

open Shared Soroban

variable {host : Host}

def EscrowStatus.live : EscrowStatus → Bool
  | .funded | .disputed => true
  | .released | .refunded => false

theorem ReleaseGrounds.live {env : Env} {s : Storage} {escrowId : U64} {record : EscrowRecord}
    {call : Call} (grounds : ReleaseGrounds env s escrowId record call) :
    record.status.live = true := by
  cases grounds with
  | release _ funded => simp [funded, EscrowStatus.live]
  | resolved _ disputed => simp [disputed, EscrowStatus.live]
  | quorum _ disputed => simp [disputed, EscrowStatus.live]

theorem RefundGrounds.live {env : Env} {s : Storage} {escrowId : U64} {record : EscrowRecord}
    {call : Call} (grounds : RefundGrounds env s escrowId record call) :
    record.status.live = true := by
  cases grounds with
  | refund _ funded => simp [funded, EscrowStatus.live]
  | resolved _ disputed => simp [disputed, EscrowStatus.live]
  | quorum _ disputed => simp [disputed, EscrowStatus.live]

theorem ReleaseGrounds.names {env : Env} {s : Storage} {escrowId : U64} {record : EscrowRecord}
    {call : Call} (grounds : ReleaseGrounds env s escrowId record call) :
    call.escrowId? = some escrowId := by
  cases grounds <;> rfl

theorem RefundGrounds.names {env : Env} {s : Storage} {escrowId : U64} {record : EscrowRecord}
    {call : Call} (grounds : RefundGrounds env s escrowId record call) :
    call.escrowId? = some escrowId := by
  cases grounds <;> rfl

-- Before initialization there are no limits, so no deposit, and no counter to reset.
structure WellFormed (s : Storage) : Prop where
  blank : s.admin = none → s.amountLimits = none ∧ s.lastEscrowId = none
  feeBound : ∀ config, s.feeConfig = some config → config.feeBps.toInt ≤ 1000
  positive : ∀ escrowId record, s.escrow escrowId = some record → 0 < record.amount.toInt

theorem empty_wellFormed : WellFormed .empty where
  blank _ := ⟨rfl, rfl⟩
  feeBound := by simp [Storage.empty]
  positive := by simp [Storage.empty]

theorem update_positive {s : Storage} {escrowId : U64} {record : EscrowRecord}
    (positive : ∀ escrowId record, s.escrow escrowId = some record → 0 < record.amount.toInt)
    (new : 0 < record.amount.toInt) :
    ∀ id stored, Function.update s.escrow escrowId (some record) id = some stored →
      0 < stored.amount.toInt := by
  intro id stored found
  by_cases same : id = escrowId
  · subst same
    simp only [Function.update_self, Option.some.injEq] at found
    exact found ▸ new
  · rw [Function.update_of_ne same] at found
    exact positive id stored found

theorem transition_wellFormed {env : Env} {call : Call} {chain chain' : Chain host} {value : Value}
    {log : List EscrowEvent} (transition : Transition host env call chain value log chain')
    (formed : WellFormed chain.storage) : WellFormed chain'.storage := by
  cases transition with
  | initialized _ bound =>
    refine ⟨fun absent => (by cases absent), ?_, formed.positive⟩
    intro config set
    cases set
    exact bound
  | configured admin escrows _ _ fees =>
    refine ⟨fun absent => ?_, ?_, ?_⟩
    · dsimp only at absent
      simp [absent] at admin
    · rcases fees with kept | ⟨config, set, bound⟩
      · simpa [kept] using formed.feeBound
      · simp [set, bound]
    · simpa [escrows] using formed.positive
  | voted => exact { formed with }
  | deposited _ _ positive limited =>
    refine ⟨fun absent => ?_, formed.feeBound, update_positive formed.positive positive⟩
    cases limited.symm.trans (formed.blank absent).1
  | disputed _ found | released found | refunded found =>
    have amount := formed.positive _ _ found
    exact ⟨formed.blank, formed.feeBound, update_positive formed.positive amount⟩

theorem receipt_wellFormed {receipt : EscrowReceipt host} (observed : Observed host receipt)
    (formed : WellFormed receipt.before.storage) : WellFormed receipt.after.storage := by
  cases observed with
  | accepted transition => exact transition_wellFormed transition formed
  | failed | elsewhere => exact formed

theorem final_wellFormed (ledger : host.Ledger) (inputs : List (Input host)) :
    WellFormed (Run.final (step host) (deployed ledger) inputs).storage := by
  apply Run.invariant (step host) (deployed ledger) fun _ chain => WellFormed chain.storage
  · exact empty_wellFormed
  · intro _ chain input formed
    exact receipt_wellFormed (observe_observed chain input) formed

end Delego.Escrow
