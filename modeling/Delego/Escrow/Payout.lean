import Delego.Escrow.Invariant

set_option autoImplicit false

namespace Delego.Escrow

open Shared Soroban

/-- The division of an amount between the treasury and the seller. That the fee is there at all says
that no value on the way to it leaves the 128 bits. -/
structure Split (amount : I128) (feeBps : U32) (fee sellerAmount : I128) : Prop where
  charged : settlementFee amount feeBps = some fee
  exact : fee.toInt = amount.toInt * feeBps.toInt / 10000
  nonneg : 0 ≤ fee.toInt
  capped : fee.toInt ≤ amount.toInt / 10
  rest : amount.checkedSub fee = some sellerAmount
  whole : fee.toInt + sellerAmount.toInt = amount.toInt

def Call.payout? : Call → Option U64
  | .release escrowId _ => some escrowId
  | .resolveDispute escrowId _ true => some escrowId
  | .resolveDisputeQuorum escrowId _ => some escrowId
  | _ => none

/-- What a run tells of fees: every positive amount can be divided at the rate that is set, and every
payout has divided the amount of its escrow so, whichever call has made it. -/
structure PayoutsExact (host : Host) (ledger : host.Ledger) (inputs : List (Input host)) : Prop where
  divides : ∀ config,
    (Run.final (step host) (deployed ledger) inputs).storage.feeConfig = some config →
      ∀ amount : I128, 0 < amount.toInt → ∃ fee sellerAmount, Split amount config.feeBps fee sellerAmount
  paid : ∀ receipt ∈ Run.history (step host) (deployed ledger) inputs,
    ∀ invocation value log, accepted receipt = some (invocation, value, log) →
      ∀ escrowId record paidOut, invocation.call.payout? = some escrowId →
        receipt.before.storage.escrow escrowId = some record →
        receipt.after.storage.escrow escrowId = some paidOut → paidOut.status = .released →
          ∃ config fee sellerAmount ending, receipt.before.storage.feeConfig = some config ∧
            Split record.amount config.feeBps fee sellerAmount ∧ ending.isTransfer = false ∧
            log = paymentEvents host record.token
              (sellerPayments config record fee sellerAmount) ++ [ending]

variable {host : Host} {amount : I128} {feeBps : U32}

theorem settlementFee_capped {fee : I128} (nonneg : 0 ≤ amount.toInt) (bound : feeBps.toInt ≤ 1000)
    (charged : settlementFee amount feeBps = some fee) : fee.toInt ≤ amount.toInt / 10 := by
  rw [settlementFee_toInt nonneg charged]
  have rated : amount.toInt * feeBps.toInt ≤ amount.toInt * 1000 :=
    Int.mul_le_mul_of_nonneg_left bound nonneg
  omega

theorem split_of_charged {fee sellerAmount : I128} (nonneg : 0 ≤ amount.toInt)
    (bound : feeBps.toInt ≤ 1000) (charged : settlementFee amount feeBps = some fee)
    (difference : sellerAmount.toInt = amount.toInt - fee.toInt) :
    Split amount feeBps fee sellerAmount where
  charged
  exact := settlementFee_toInt nonneg charged
  nonneg := (settlementFee_bounds nonneg bound charged).1
  capped := settlementFee_capped nonneg bound charged
  rest := MachineInt.checkedSub_eq_some.mpr difference
  whole := by omega

theorem split_exists (nonneg : 0 ≤ amount.toInt) (bound : feeBps.toInt ≤ 1000) :
    ∃ fee sellerAmount, Split amount feeBps fee sellerAmount := by
  obtain ⟨fee, charged⟩ := settlementFee_exists nonneg bound
  have within := settlementFee_bounds nonneg bound charged
  obtain ⟨sellerAmount, difference⟩ : ∃ rest : I128, rest.toInt = amount.toInt - fee.toInt :=
    MachineInt.exists_between (a := .lit 0) (b := amount) (by simp; omega) (by omega)
  exact ⟨fee, sellerAmount, split_of_charged nonneg bound charged difference⟩

theorem payout_escrowId {call : Call} {escrowId : U64} (pays : call.payout? = some escrowId) :
    call.escrowId? = some escrowId := by
  cases call with
  | resolveDispute named caller releaseToSeller =>
    cases releaseToSeller with
    | true => exact pays
    | false => cases pays
  | release | resolveDisputeQuorum => exact pays
  | _ => cases pays

theorem transition_split {env : Env} {call : Call} {before after : Chain host} {value : Value}
    {log : List EscrowEvent} {escrowId : U64} {record paidOut : EscrowRecord}
    (transition : Transition host env call before value log after) (formed : WellFormed before.storage)
    (pays : call.payout? = some escrowId) (found : before.storage.escrow escrowId = some record)
    (settled : after.storage.escrow escrowId = some paidOut) (released : paidOut.status = .released) :
    ∃ config fee sellerAmount ending, before.storage.feeConfig = some config ∧
      Split record.amount config.feeBps fee sellerAmount ∧ ending.isTransfer = false ∧
      log = paymentEvents host record.token
        (sellerPayments config record fee sellerAmount) ++ [ending] := by
  have named := payout_escrowId pays
  cases transition with
  | initialized | deposited => cases named
  | voted | disputed => cases pays
  | configured _ _ _ _ _ _ noId =>
    rw [noId] at named
    cases named
  | released present grounds configured charged difference paid closing =>
    rw [grounds.names] at named
    cases named
    cases found.symm.trans present
    have positive := formed.positive _ _ found
    exact ⟨_, _, _, _, configured,
      split_of_charged (Int.le_of_lt positive) (formed.feeBound _ configured) charged difference,
      closing, rfl⟩
  | refunded _ grounds =>
    rw [grounds.names] at named
    cases named
    simp only [Function.update_self, Option.some.injEq] at settled
    subst settled
    cases released

theorem payouts_exact (host : Host) (ledger : host.Ledger) (inputs : List (Input host)) :
    PayoutsExact host ledger inputs := by
  constructor
  · intro config configured amount positive
    exact split_exists (Int.le_of_lt positive)
      ((final_wellFormed ledger inputs).feeBound config configured)
  · intro receipt member invocation value log done escrowId record paidOut pays found settled released
    have formed : WellFormed receipt.before.storage := by
      obtain ⟨input, older, _, rfl⟩ := (Run.mem_history _ _).mp member
      exact final_wellFormed ledger older
    cases history_observed _ _ receipt member with
    | accepted transition =>
      cases done
      exact transition_split transition formed pays found settled released
    | failed | elsewhere => cases done

end Delego.Escrow
