import Delego.Escrow.Invariant
import Delego.Shared.Book

set_option autoImplicit false

namespace Delego.Escrow

open Shared Soroban

variable {host : Host}

def owed (token : Address) (record : EscrowRecord) : Int :=
  if record.token = token ∧ record.status.live = true then record.amount.toInt else 0

def outstanding (s : Storage) (token : Address) : Int := bookTotal (owed token) s.escrow

def paymentTotal : List Payment → Int
  | [] => 0
  | payment :: rest => payment.amount.toInt + paymentTotal rest

theorem sellerPayments_total {config : FeeConfig} {record : EscrowRecord} {fee sellerAmount : I128}
    (nonneg : 0 ≤ fee.toInt) (difference : sellerAmount.toInt = record.amount.toInt - fee.toInt) :
    paymentTotal (sellerPayments config record fee sellerAmount) = record.amount.toInt := by
  by_cases charged : 0 < fee.toInt
  · simp [paymentTotal, sellerPayments, charged, difference]
  · have free : fee.toInt = 0 := by omega
    simp [paymentTotal, sellerPayments, free, difference]

theorem sellerPayments_nonneg {config : FeeConfig} {record : EscrowRecord} {fee sellerAmount : I128}
    (covered : 0 ≤ sellerAmount.toInt) :
    ∀ payment ∈ sellerPayments config record fee sellerAmount, 0 ≤ payment.amount.toInt := by
  intro payment member
  simp only [sellerPayments, List.mem_append, List.mem_singleton] at member
  rcases member with charge | rfl
  · split at charge
    · rename_i positive
      cases List.mem_singleton.mp charge
      exact Int.le_of_lt positive
    · cases charge
  · exact covered

-- A payment to the contract itself costs it nothing, so the total is only an upper bound.
theorem pays_balance (exact : host.ExactTransfers) {token : Address} {payments : List Payment}
    {ledger ledger' : host.Ledger} (nonneg : ∀ payment ∈ payments, 0 ≤ payment.amount.toInt)
    (paid : Pays host token payments ledger ledger') (other : Address) :
    (host.balance ledger other host.currentContract : Int) -
        (if other = token then paymentTotal payments else 0) ≤
      host.balance ledger' other host.currentContract := by
  induction payments generalizing ledger with
  | nil =>
    cases paid
    simp [paymentTotal]
  | cons payment rest ih =>
    obtain ⟨middle, first, paid⟩ := paid
    have later := ih (fun p member => nonneg p (List.mem_cons_of_mem _ member)) paid
    have moved := exact _ _ _ _ _ _ first other host.currentContract
    have amount := nonneg payment (by simp)
    simp only [paymentTotal] at later ⊢
    by_cases ours : other = token
    · simp only [ours, ↓reduceIte] at later moved ⊢
      split at moved <;> omega
    · simp only [ours, ↓reduceIte] at later moved ⊢
      omega

def Solvent (chain : Chain host) : Prop :=
  ∀ token, outstanding chain.storage token ≤ host.balance chain.ledger token host.currentContract

theorem deployed_solvent (ledger : host.Ledger) : Solvent (deployed ledger) := by
  simp [Solvent, deployed, Storage.empty, outstanding, bookTotal_empty]

theorem owed_entry_nonneg {s : Storage}
    (positive : ∀ escrowId record, s.escrow escrowId = some record → 0 < record.amount.toInt)
    (token : Address) (escrowId : U64) : 0 ≤ (s.escrow escrowId).elim 0 (owed token) := by
  cases found : s.escrow escrowId with
  | none => simp
  | some record =>
    have := positive escrowId record found
    simp only [Option.elim_some, owed]
    split <;> omega

theorem closed_solvent (exact : host.ExactTransfers) {chain : Chain host} {escrowId : U64}
    {record : EscrowRecord} {status : EscrowStatus} {payments : List Payment} {ledger : host.Ledger}
    (solvent : Solvent chain) (found : chain.storage.escrow escrowId = some record)
    (live : record.status.live = true) (closed : status.live = false)
    (total : paymentTotal payments = record.amount.toInt)
    (nonneg : ∀ payment ∈ payments, 0 ≤ payment.amount.toInt)
    (paid : Pays host record.token payments chain.ledger ledger) :
    Solvent { ledger, storage := { chain.storage with
      escrow := Function.update chain.storage.escrow escrowId (some { record with status }) } } := by
  intro token
  have held := solvent token
  have moved := pays_balance exact nonneg paid token
  simp only [outstanding, bookTotal_update, found, Option.elim_some, owed, live, closed] at held ⊢
  rw [total] at moved
  by_cases same : token = record.token
  · simp [same] at held moved ⊢
    omega
  · simp [same, Ne.symm same] at held moved ⊢
    omega

theorem transition_solvent (exact : host.ExactTransfers) {env : Env} {call : Call}
    {chain chain' : Chain host} {value : Value} {log : List EscrowEvent}
    (silent : host.currentContract ∉ env.signers) (formed : WellFormed chain.storage)
    (transition : Transition host env call chain value log chain') (solvent : Solvent chain) :
    Solvent chain' := by
  cases transition with
  | initialized | voted => exact solvent
  | configured _ escrows => simpa [Solvent, outstanding, escrows] using solvent
  | @deposited _ buyer _ escrowed _ _ _ _ lastId _ _ signed _ positive _ _ paid =>
    intro token
    have held := solvent token
    have moved := exact _ _ _ _ _ _ paid token host.currentContract
    have outsider : host.currentContract ≠ buyer := fun same => silent (same ▸ signed)
    -- Whether or not the new id is free, a replaced entry weighed at least nothing.
    have replaced := owed_entry_nonneg formed.positive token lastId
    simp only [outsider, ↓reduceIte] at moved
    simp only [outstanding, bookTotal_update, Option.elim_some, owed, EscrowStatus.live] at held ⊢
    by_cases same : token = escrowed
    · simp only [same, ↓reduceIte, and_self] at held moved replaced ⊢
      omega
    · simp only [same, Ne.symm same, ↓reduceIte, false_and] at held moved replaced ⊢
      omega
  | disputed _ found _ funded =>
    intro token
    have held := solvent token
    simp only [outstanding, bookTotal_update, found, Option.elim_some, owed, funded, EscrowStatus.live] at held ⊢
    omega
  | released found grounds configured charged difference paid =>
    have amount := formed.positive _ _ found
    have bounds := settlementFee_bounds (Int.le_of_lt amount) (formed.feeBound _ configured) charged
    exact closed_solvent exact solvent found grounds.live rfl
      (sellerPayments_total bounds.1 difference) (sellerPayments_nonneg (by omega)) paid
  | refunded found grounds paid =>
    have amount := formed.positive _ _ found
    refine closed_solvent exact solvent found grounds.live rfl ?_ ?_ paid
    · simp [paymentTotal, buyerPayments]
    · simpa [buyerPayments] using Int.le_of_lt amount

theorem receipt_solvent (exact : host.ExactTransfers) {receipt : EscrowReceipt host}
    (observed : Observed host receipt)
    (silent : host.currentContract ∉ receipt.input.signers)
    (undrained : ∀ ledger, receipt.input = .elsewhere ledger → ∀ token,
      host.balance receipt.before.ledger token host.currentContract ≤
        host.balance ledger token host.currentContract)
    (formed : WellFormed receipt.before.storage) (solvent : Solvent receipt.before) :
    Solvent receipt.after := by
  cases observed with
  | accepted transition => exact transition_solvent exact silent formed transition solvent
  | failed => exact solvent
  | elsewhere =>
    intro token
    have held := solvent token
    have kept := undrained _ rfl token
    simp only at held kept ⊢
    omega

/-- Whatever is called, and whatever the tokens do elsewhere short of taking from the contract,
every token balance covers all the escrows of that token that are still open. -/
theorem escrow_solvency (host : Host) (exact : host.ExactTransfers) (ledger : host.Ledger)
    (inputs : List (Input host))
    (silent : ∀ input ∈ inputs, host.currentContract ∉ input.signers)
    (undrained : ∀ receipt ∈ Run.history (step host) (deployed ledger) inputs,
      ∀ elsewhere, receipt.input = .elsewhere elsewhere → ∀ token,
        host.balance receipt.before.ledger token host.currentContract ≤
          host.balance elsewhere token host.currentContract)
    (token : Address) :
    outstanding (Run.final (step host) (deployed ledger) inputs).storage token ≤
      host.balance (Run.final (step host) (deployed ledger) inputs).ledger token
        host.currentContract := by
  suffices solvent : Solvent (Run.final (step host) (deployed ledger) inputs) from solvent token
  induction inputs with
  | nil => exact deployed_solvent ledger
  | cons input earlier ih =>
    have before := ih (fun input member => silent input (List.mem_cons_of_mem _ member))
      (fun receipt member => undrained receipt (List.mem_cons_of_mem _ member))
    have observed := observe_observed (Run.final (step host) (deployed ledger) earlier) input
    have after := receipt_solvent exact observed (silent input (by simp))
      (undrained _ (by simp [Run.history])) (final_wellFormed ledger earlier) before
    exact after

theorem escrow_solvency_sample :
    outstanding (Run.final (step sampleHost) (deployed sampleLedger) sampleInputs).storage
        (.sample 5) ≤
      sampleHost.balance (Run.final (step sampleHost) (deployed sampleLedger) sampleInputs).ledger
        (.sample 5) (.contract 9) := by
  refine escrow_solvency sampleHost (plainHost_exact _) sampleLedger sampleInputs (by decide) ?_
    (.sample 5)
  intro receipt member elsewhere input
  have among := List.mem_map_of_mem (f := Receipt.input) member
  rw [Run.history_input, input] at among
  simp [sampleInputs, sampleCall] at among

end Delego.Escrow
