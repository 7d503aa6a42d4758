import Delego.Escrow.Payout
import Delego.Shared.EventLog

set_option autoImplicit false

namespace Delego.Escrow

open Shared Soroban Tx Replay EventLog

/-- What the events of an escrow tell about it: all but the time of its creation. -/
structure PublicEscrow where
  buyer : Address
  seller : Address
  token : Address
  amount : I128
  status : EscrowStatus
  orderId : BytesN 32
  timeoutLedger : U32
  deriving DecidableEq

structure Transferred where
  token : Address
  source : Address
  target : Address
  amount : I128
  deriving DecidableEq

/-- What a reader of the events keeps: the escrows, the switches that calls publish, and the transfers
that no event has accounted for yet. -/
structure Index where
  escrow : U64 → Option PublicEscrow
  lastEscrowId : Int
  pendingAdmin : Option Address
  pauseState : Option EscrowPauseState
  unaccounted : List Transferred

def Index.empty : Index := ⟨fun _ => none, 0, none, none, []⟩

-- The seller has this amount, and what is missing, a tenth at most, went elsewhere as a fee.
def PublicEscrow.SellerPaid (entry : PublicEscrow) (contract : Address) (sellerAmount : I128)
    (transfers : List Transferred) : Prop :=
  match transfers with
  | [paid] => paid = ⟨entry.token, contract, entry.seller, sellerAmount⟩ ∧ sellerAmount = entry.amount
  | [fee, paid] => paid = ⟨entry.token, contract, entry.seller, sellerAmount⟩ ∧
      fee.token = entry.token ∧ fee.source = contract ∧ 0 < fee.amount.toInt ∧
      fee.amount.toInt ≤ entry.amount.toInt / 10 ∧
      fee.amount.toInt + sellerAmount.toInt = entry.amount.toInt
  | _ => False

instance (entry : PublicEscrow) (contract : Address) (sellerAmount : I128) (transfers : List Transferred) :
    Decidable (entry.SellerPaid contract sellerAmount transfers) := by
  unfold PublicEscrow.SellerPaid
  split <;> infer_instance

def PublicEscrow.BuyerPaid (entry : PublicEscrow) (contract : Address) (transfers : List Transferred) : Prop :=
  transfers = [⟨entry.token, contract, entry.buyer, entry.amount⟩]

instance (entry : PublicEscrow) (contract : Address) (transfers : List Transferred) :
    Decidable (entry.BuyerPaid contract transfers) := inferInstanceAs (Decidable (_ = _))

-- The event accounts for the transfers before it.
def Index.revise (index : Index) (escrowId : U64) (status : EscrowStatus)
    (legal : PublicEscrow → Bool) : Option Index := do
  let entry ← index.escrow escrowId
  if legal entry then
    some { index with
      escrow := Function.update index.escrow escrowId (some { entry with status })
      unaccounted := [] }
  else none

/-- What a reader makes of one more event; `none` is an event that has no place there. -/
def Index.read (contract : Address) (index : Index) : EscrowEvent → Option Index
  | .transfer token source target amount =>
    some { index with unaccounted := index.unaccounted ++ [⟨token, source, target, amount⟩] }
  | .created escrowId buyer seller token amount orderId timeoutLedger =>
    if escrowId.toInt = index.lastEscrowId + 1 ∧ 0 < amount.toInt ∧
        (∀ pauseState ∈ index.pauseState, pauseState.createPaused = false) ∧
        index.unaccounted = [⟨token, buyer, contract, amount⟩] then
      some { index with
        escrow := Function.update index.escrow escrowId
          (some { buyer, seller, token, amount, status := .funded, orderId, timeoutLedger })
        lastEscrowId := escrowId.toInt
        unaccounted := [] }
    else none
  | .released escrowId seller amount _ => index.revise escrowId .released fun entry =>
    entry.status = .funded ∧ entry.seller = seller ∧ entry.SellerPaid contract amount index.unaccounted
  | .refunded escrowId buyer amount _ => index.revise escrowId .refunded fun entry =>
    entry.status = .funded ∧ entry.buyer = buyer ∧ entry.amount = amount ∧
      entry.BuyerPaid contract index.unaccounted
  | .disputed escrowId disputedBy => index.revise escrowId .disputed fun entry =>
    entry.status = .funded ∧ (disputedBy = entry.buyer ∨ disputedBy = entry.seller) ∧ index.unaccounted = []
  | .resolved escrowId true _ => index.revise escrowId .released fun entry =>
    entry.status = .disputed ∧
      ∃ paid ∈ index.unaccounted.getLast?, entry.SellerPaid contract paid.amount index.unaccounted
  | .resolved escrowId false _ => index.revise escrowId .refunded fun entry =>
    entry.status = .disputed ∧ entry.BuyerPaid contract index.unaccounted
  | .adminProposed _ newAdmin => some { index with pendingAdmin := some newAdmin }
  | .adminAccepted newAdmin =>
    if index.pendingAdmin = some newAdmin then some { index with pendingAdmin := none } else none
  | .adminTransferCancelled _ =>
    if index.pendingAdmin.isSome then some { index with pendingAdmin := none } else none
  | .pauseChanged createPaused updatedBy updatedAtLedger =>
    some { index with pauseState := some { createPaused, updatedBy, updatedAtLedger } }

def EscrowRecord.told (record : EscrowRecord) : PublicEscrow where
  buyer := record.buyer
  seller := record.seller
  token := record.token
  amount := record.amount
  status := record.status
  orderId := record.orderId
  timeoutLedger := record.timeoutLedger

def Storage.index (s : Storage) : Index where
  escrow := Option.map EscrowRecord.told ∘ s.escrow
  lastEscrowId := (s.lastEscrowId.getD (.lit 0)).toInt
  pendingAdmin := s.pendingAdmin
  pauseState := s.pauseState
  unaccounted := []

def eventLog {host : Host} (ledger : host.Ledger) (inputs : List (Input host)) : List EscrowEvent :=
  published emitted (Run.history (step host) (deployed ledger) inputs)

section Reading

variable {host : Host} {s : Storage} {env : Env} {contract : Address} {index : Index}
  {record : EscrowRecord} {escrowId : U64}

def Payment.transferred (host : Host) (token : Address) (payment : Payment) : Transferred :=
  ⟨token, host.currentContract, payment.target, payment.amount⟩

theorem index_update (status : EscrowStatus) :
    ({ s with escrow := Function.update s.escrow escrowId (some { record with status }) } : Storage).index =
      { s.index with escrow := Function.update s.index.escrow escrowId (some { record.told with status }) } := by
  simp [Storage.index, Function.comp_update, EscrowRecord.told]

theorem replay_payments (token : Address) (payments : List Payment) (ending : EscrowEvent) :
    replay (Index.read contract) index (paymentEvents host token payments ++ [ending]).reverse =
      Index.read contract { index with
        unaccounted := index.unaccounted ++ payments.map (Payment.transferred host token) } ending := by
  have noted : replay (Index.read contract) index (paymentEvents host token payments).reverse =
      some { index with
        unaccounted := index.unaccounted ++ payments.map (Payment.transferred host token) } := by
    induction payments generalizing index with
    | nil => simp [paymentEvents, replay]
    | cons payment rest ih =>
      rw [paymentEvents, List.map_cons, List.reverse_cons, replay_append]
      simp only [replay, Option.bind_some, Index.read]
      refine ih.trans ?_
      simp [Payment.transferred]
  rw [List.reverse_append, List.reverse_singleton, List.singleton_append, replay, noted, Option.bind_some]

theorem index_revise {status : EscrowStatus} {legal : PublicEscrow → Bool} {transfers : List Transferred}
    (found : s.escrow escrowId = some record) (allowed : legal record.told = true) :
    ({ s.index with unaccounted := transfers } : Index).revise escrowId status legal =
      some ({ s with
        escrow := Function.update s.escrow escrowId (some { record with status }) } : Storage).index := by
  have shown : s.index.escrow escrowId = some record.told := by
    simp [Storage.index, found]
  have settled : s.index.unaccounted = [] := rfl
  simp [Index.revise, shown, allowed, index_update, settled]

theorem told_sellerPaid (host : Host) {config : FeeConfig} {fee sellerAmount : I128} (formed : WellFormed s)
    (found : s.escrow escrowId = some record) (configured : s.feeConfig = some config)
    (charged : settlementFee record.amount config.feeBps = some fee)
    (difference : sellerAmount.toInt = record.amount.toInt - fee.toInt) :
    record.told.SellerPaid host.currentContract sellerAmount
      ((sellerPayments config record fee sellerAmount).map (Payment.transferred host record.token)) := by
  have positive := formed.positive escrowId record found
  have split := split_of_charged (by omega) (formed.feeBound config configured) charged difference
  by_cases charges : 0 < fee.toInt
  · have capped := split.capped
    simp only [sellerPayments, charges, if_true, List.cons_append, List.nil_append, List.map_cons, List.map_nil,
      Payment.transferred, PublicEscrow.SellerPaid, EscrowRecord.told, true_and]
    omega
  · have nonneg := split.nonneg
    have whole : sellerAmount = record.amount := MachineInt.ext (by omega)
    simp [sellerPayments, charges, Payment.transferred, PublicEscrow.SellerPaid, EscrowRecord.told, whole]

theorem last_sellerPayment (config : FeeConfig) (fee sellerAmount : I128) :
    (sellerPayments config record fee sellerAmount).getLast? = some ⟨record.seller, sellerAmount⟩ := by
  by_cases charges : 0 < fee.toInt <;> simp [sellerPayments, charges]

theorem settleDispute_read {chain : Chain host} {side answer : Bool} {caller : Address}
    {after : Frame (Chain host) EscrowEvent} (formed : WellFormed chain.storage)
    (found : chain.storage.escrow escrowId = some record) (disputed : record.status = .disputed)
    (done : (settleDispute escrowId record side caller : EscrowTx host Bool).Yields ⟨chain, []⟩ answer after) :
    replay (Index.read host.currentContract) chain.storage.index after.log.reverse =
      some after.state.storage.index := by
  obtain ⟨_, _, settled, rfl, _⟩ := settleDispute_yields.mp done
  rcases yields_settle.mp settled with ⟨rfl, sellerAmount, _, paid, stored⟩ | ⟨rfl, _, paid, stored⟩
  · obtain ⟨config, fee, configured, charged, difference, ledger, _, rfl⟩ := yields_payToSeller.mp paid
    cases yields_setStatus.mp stored
    have seller := told_sellerPaid host formed found configured charged difference
    rw [List.nil_append, replay_payments]
    refine index_revise found ?_
    simpa [EscrowRecord.told, disputed, Storage.index, last_sellerPayment, Payment.transferred] using seller
  · obtain ⟨ledger, _, rfl⟩ := yields_payToBuyer.mp paid
    cases yields_setStatus.mp stored
    rw [List.nil_append, replay_payments]
    refine index_revise found ?_
    simp [EscrowRecord.told, disputed, Storage.index, PublicEscrow.BuyerPaid, buyerPayments,
      Payment.transferred]

theorem perform_read {chain : Chain host} {call : Call} {value : Value}
    {after : Frame (Chain host) EscrowEvent} (formed : WellFormed chain.storage)
    (done : (perform env call : EscrowTx host Value).Yields ⟨chain, []⟩ value after) :
    replay (Index.read host.currentContract) chain.storage.index after.log.reverse =
      some after.state.storage.index := by
  cases call <;> simp only [perform, yields_map] at done <;> obtain ⟨answer, done, rfl⟩ := done
  case initializeContract =>
    obtain ⟨fresh, _, _, rfl, _⟩ := initializeContract_yields.mp done
    simp [replay, Storage.index, (formed.blank fresh).2]
  case setLimits =>
    obtain ⟨_, _, _, rfl, _⟩ := setLimits_yields.mp done
    rfl
  case setQuorumConfig =>
    obtain ⟨_, _, _, _, rfl, _⟩ := setQuorumConfig_yields.mp done
    rfl
  case voteDispute =>
    obtain ⟨_, config, _, _, record, _, _, _, rfl, _⟩ := voteDispute_yields.mp done
    rfl
  case resolveDisputeQuorum =>
    obtain ⟨_, record, found, disputed, config, _, side, _, done⟩ := resolveDisputeQuorum_yields.mp done
    exact settleDispute_read formed found disputed done
  case updateFee =>
    obtain ⟨_, _, _, config, _, rfl, _⟩ := updateFee_yields.mp done
    rfl
  case addToken =>
    obtain ⟨_, _, ⟨_, rfl⟩ | ⟨_, rfl⟩, _⟩ := addToken_yields.mp done
    · rfl
    · rfl
  case removeToken =>
    obtain ⟨_, _, rfl, _⟩ := removeToken_yields.mp done
    rfl
  case deposit buyer seller token amount orderId timeoutLedgers =>
    obtain ⟨_, opened, _, positive, limits, _, _, _, ledger, _, next, timeoutLedger, _, rfl⟩ :=
      deposit_yields.mp done
    have unpaused : ∀ pauseState ∈ chain.storage.pauseState, pauseState.createPaused = false := by
      intro pauseState stored
      exact Bool.eq_false_iff.mpr fun paused => opened ⟨pauseState, stored, paused⟩
    have numbered : answer.toInt = chain.storage.index.lastEscrowId + 1 := next
    simp only [List.nil_append, List.reverse_cons, List.reverse_nil, List.singleton_append, replay,
      Option.bind_some, Index.read]
    rw [if_pos ⟨numbered, positive, unpaused, rfl⟩]
    simp [Storage.index, Function.comp_update, EscrowRecord.told]
  case release =>
    obtain ⟨_, record, found, _, funded, amount, _, paid, rfl, _⟩ := release_yields.mp done
    obtain ⟨config, fee, configured, charged, difference, ledger, _, rfl⟩ := yields_payToSeller.mp paid
    have seller := told_sellerPaid host formed found configured charged difference
    rw [List.nil_append, replay_payments]
    refine index_revise found ?_
    simpa [EscrowRecord.told, funded, Storage.index] using seller
  case refund =>
    obtain ⟨_, record, found, funded, _, _, _, paid, rfl, _⟩ := refund_yields.mp done
    obtain ⟨ledger, _, rfl⟩ := yields_payToBuyer.mp paid
    rw [List.nil_append, replay_payments]
    refine index_revise found ?_
    simp [EscrowRecord.told, funded, Storage.index, PublicEscrow.BuyerPaid, buyerPayments,
      Payment.transferred]
  case dispute escrowId caller =>
    obtain ⟨_, record, found, party, funded, rfl, _⟩ := dispute_yields.mp done
    have next : (chain.storage.index.read host.currentContract (.disputed escrowId caller)) =
        some ({ chain.storage with
          escrow := Function.update chain.storage.escrow escrowId
            (some { record with status := .disputed }) } : Storage).index := by
      refine index_revise found ?_
      simpa [EscrowRecord.told, funded, Storage.index] using or_iff_not_imp_left.mpr party
    simp only [List.nil_append, List.reverse_singleton, replay, Option.bind_some]
    exact next
  case resolveDispute =>
    obtain ⟨_, _, record, found, disputed, done⟩ := resolveDispute_yields.mp done
    exact settleDispute_read formed found disputed done
  case proposeAdmin =>
    obtain ⟨_, _, rfl, _⟩ := proposeAdmin_yields.mp done
    rfl
  case acceptAdmin newAdmin =>
    obtain ⟨_, pending, rfl, _⟩ := acceptAdmin_yields.mp done
    have proposed : chain.storage.index.pendingAdmin = some newAdmin := pending
    simp only [List.nil_append, List.reverse_singleton, replay, Option.bind_some, Index.read]
    rw [if_pos proposed]
    rfl
  case cancelAdminTransfer =>
    obtain ⟨_, _, pending, rfl, _⟩ := cancelAdminTransfer_yields.mp done
    have proposed : chain.storage.index.pendingAdmin.isSome = true := Option.isSome_iff_ne_none.mpr pending
    simp only [List.nil_append, List.reverse_singleton, replay, Option.bind_some, Index.read]
    rw [if_pos proposed]
    rfl
  case addCoAdmin =>
    obtain ⟨_, _, _, _, rfl, _⟩ := addCoAdmin_yields.mp done
    rfl
  case removeCoAdmin =>
    obtain ⟨_, _, _, rfl, _⟩ := removeCoAdmin_yields.mp done
    rfl
  case setCreatePaused =>
    obtain ⟨_, _, rfl, _⟩ := setCreatePaused_yields.mp done
    rfl

end Reading

structure LogComplete {host : Host} (ledger : host.Ledger) (inputs : List (Input host)) : Prop where
  followed : replay (Index.read host.currentContract) .empty (eventLog ledger inputs) =
    some (Run.final (step host) (deployed ledger) inputs).storage.index
  meanwhile : ∀ older, older <:+ eventLog ledger inputs →
    (replay (Index.read host.currentContract) .empty older).isSome

/-- Whoever follows the events of the contract, whatever else moves the tokens, knows every escrow and
can account for every payment, and no event is ever out of place. -/
theorem escrow_log_complete (host : Host) (ledger : host.Ledger) (inputs : List (Input host)) :
    LogComplete ledger inputs := by
  have start : (deployed ledger).storage.index = Index.empty := rfl
  have followed : replay (Index.read host.currentContract) .empty (eventLog ledger inputs) =
      some (Run.final (step host) (deployed ledger) inputs).storage.index := by
    rw [← start]
    refine replay_published (fun chain : Chain host => chain.storage.index) inputs ?_
    intro input older _
    cases input with
    | elsewhere moved => rfl
    | call invocation =>
      exact replay_invoke (fun chain : Chain host => chain.storage.index) fun value after done =>
        perform_read (final_wellFormed ledger older) done
  constructor
  case followed => exact followed
  case meanwhile =>
    intro older within
    exact Option.isSome_iff_exists.mpr (replay_suffix followed within)

-- A reader that misses the first transfer refuses the escrow that it pays for.
example : replay (Index.read (.contract 9)) .empty ((eventLog sampleLedger sampleInputs).dropLast) = none := by
  decide

end Delego.Escrow
