import Delego.Escrow.AdminSafety
import Delego.Escrow.Invariant

set_option autoImplicit false

namespace Delego.Escrow

open Shared Soroban Tx

variable {host : Host} {chain : Chain host} {record : EscrowRecord} {env : Env} {call : Call}

def Succeeds (chain : Chain host) (env : Env) (call : Call) : Prop :=
  ∃ value log, (step host chain (.call ⟨env, call⟩)).1 = .ok (value, log)

theorem succeeds_iff : Succeeds chain env call ↔
    ∃ value after, (perform env call : EscrowTx host Value).Yields ⟨chain, []⟩ value after := by
  constructor
  · intro succeeds
    obtain ⟨value, log, done⟩ := succeeds
    exact ⟨value, _, invoke_ok.mp done⟩
  · intro yields
    obtain ⟨value, after, done⟩ := yields
    refine ⟨value, after.log, invoke_ok.mpr ?_⟩
    rw [invoke_state done]
    exact done

def BuyerPayable (chain : Chain host) (record : EscrowRecord) : Prop :=
  ∃ ledger, Pays host record.token (buyerPayments record) chain.ledger ledger

def SellerPayable (chain : Chain host) (record : EscrowRecord) : Prop :=
  ∀ config fee sellerAmount, chain.storage.feeConfig = some config →
    settlementFee record.amount config.feeBps = some fee →
      sellerAmount.toInt = record.amount.toInt - fee.toInt →
        ∃ ledger, Pays host record.token (sellerPayments config record fee sellerAmount)
          chain.ledger ledger

theorem payToBuyer_succeeds (payable : BuyerPayable chain record) :
    ∃ after, (payToBuyer record : EscrowTx host Unit).Yields ⟨chain, []⟩ () after := by
  obtain ⟨ledger, paid⟩ := payable
  exact ⟨_, yields_payToBuyer.mpr ⟨ledger, paid, rfl⟩⟩

-- Whatever was deposited can be divided: the fee is there, fits and leaves the seller something.
structure Divisible (s : Storage) : Prop where
  charged : s.admin.isSome = true → s.feeConfig.isSome = true
  started : ∀ escrowId record, s.escrow escrowId = some record → s.admin.isSome = true

theorem payToSeller_succeeds {escrowId : U64} (formed : WellFormed chain.storage)
    (divisible : Divisible chain.storage) (found : chain.storage.escrow escrowId = some record)
    (payable : SellerPayable chain record) :
    ∃ sellerAmount after,
      (payToSeller record : EscrowTx host I128).Yields ⟨chain, []⟩ sellerAmount after := by
  have configured := divisible.charged (divisible.started escrowId record found)
  obtain ⟨config, stored⟩ := Option.isSome_iff_exists.mp configured
  have amount := Int.le_of_lt (formed.positive escrowId record found)
  have bound := formed.feeBound config stored
  obtain ⟨fee, charged⟩ := settlementFee_exists amount bound
  have within := settlementFee_bounds amount bound charged
  obtain ⟨sellerAmount, difference⟩ : ∃ rest : I128, rest.toInt = record.amount.toInt - fee.toInt :=
    MachineInt.exists_between (a := .lit 0) (b := record.amount) (by simp; omega) (by omega)
  obtain ⟨ledger, paid⟩ := payable config fee sellerAmount stored charged difference
  exact ⟨sellerAmount, _,
    yields_payToSeller.mpr ⟨config, fee, stored, charged, difference, ledger, paid, rfl⟩⟩

theorem decree_charged {charter after : Charter} (decree : Decree env call charter after)
    {past : List (EscrowReceipt host)} (book : AdminBook past charter)
    (charged : charter.admin.isSome = true → charter.feeConfig.isSome = true) :
    after.admin.isSome = true → after.feeConfig.isSome = true := by
  cases decree with
  | accepted _ pending =>
    obtain ⟨primary, present, _⟩ := book.nominated _ pending
    exact fun _ => charged (by simp [present])
  | initialized | charged => exact fun _ => rfl
  | proposed | cancelled | added | removed | listed | relisted | delisted | limited | arbitrated
  | halted | none => exact charged

theorem governed_started {past : List (EscrowReceipt host)} {receipt : EscrowReceipt host}
    (governed : Governed receipt) (book : AdminBook past receipt.before.storage.charter)
    (before : receipt.before.storage.admin.isSome = true) :
    receipt.after.storage.admin.isSome = true := by
  obtain ⟨primary, present⟩ := Option.isSome_iff_exists.mp before
  rcases receipt_handover governed book present with same | ⟨successor, same, _⟩
  · simp [same]
  · simp [same]

theorem observed_escrow {receipt : EscrowReceipt host} (observed : Observed host receipt)
    (formed : WellFormed receipt.before.storage) {escrowId : U64} {record : EscrowRecord}
    (found : receipt.after.storage.escrow escrowId = some record) :
    receipt.before.storage.admin.isSome = true ∨
      ∃ record, receipt.before.storage.escrow escrowId = some record := by
  cases observed with
  | failed | elsewhere => exact .inr ⟨record, found⟩
  | @accepted before _ _ _ _ _ transition =>
    cases transition with
    | initialized | voted => exact .inr ⟨record, found⟩
    | configured _ escrows => exact .inr ⟨record, escrows ▸ found⟩
    | deposited _ _ _ limited =>
      refine .inl ?_
      rw [Option.isSome_iff_ne_none]
      intro absent
      cases limited.symm.trans (formed.blank absent).1
    | @disputed _ named _ _ _ present | @released _ _ named _ _ _ _ _ _ present
    | @refunded _ _ named _ _ _ present =>
      refine .inr ?_
      by_cases same : escrowId = named
      · subst same
        exact ⟨_, present⟩
      · exact ⟨record, (Function.update_of_ne same _ _).symm.trans found⟩

theorem final_divisible (ledger : host.Ledger) (inputs : List (Input host)) :
    Divisible (Run.final (step host) (deployed ledger) inputs).storage := by
  induction inputs with
  | nil => exact ⟨by simp [Run.final, deployed, Storage.empty], by simp [Run.final, deployed, Storage.empty]⟩
  | cons input earlier ih =>
    have book := history_adminBook ledger earlier
    have governed := observe_governed (Run.final (step host) (deployed ledger) earlier) input
    have observed := observe_observed (Run.final (step host) (deployed ledger) earlier) input
    constructor
    case charged =>
      cases governed with
      | decree _ decree => exact decree_charged decree book ih.charged
      | idle _ same =>
        have fees := congrArg Charter.feeConfig same
        have admins := congrArg Charter.admin same
        intro started
        exact (congrArg Option.isSome fees).trans
          (ih.charged ((congrArg Option.isSome admins).symm.trans started))
    case started =>
      intro escrowId record found
      refine governed_started governed book ?_
      rcases observed_escrow observed (final_wellFormed ledger earlier) found with
        started | ⟨held, present⟩
      · exact started
      · exact ih.started escrowId held present

def sampleOpen : Chain sampleHost :=
  Run.final (step sampleHost) (deployed sampleLedger) (sampleInputs.drop 1)

def sampleEnv (sequence : U32) (signer : Address) : Env where
  sequence
  timestamp := .lit 1700000000
  signers := [signer]

def sampleEscrow : EscrowRecord where
  escrowId := .lit 1
  buyer := .sample 3
  seller := .sample 4
  token := .sample 5
  amount := .lit 1000
  status := .funded
  orderId := 77
  createdAt := .lit 1700000000
  timeoutLedger := .lit 110

theorem sampleOpen_escrow : sampleOpen.storage.escrow (.lit 1) = some sampleEscrow := by
  decide

theorem sampleOpen_feeConfig : sampleOpen.storage.feeConfig = some ⟨.lit 250, .sample 2⟩ := by
  decide

theorem sampleOpen_buyerPayable : BuyerPayable sampleOpen sampleEscrow := ⟨_, _, rfl, rfl⟩

theorem sampleOpen_sellerPayable : SellerPayable sampleOpen sampleEscrow := by
  intro config fee sellerAmount configured charged difference
  cases sampleOpen_feeConfig.symm.trans configured
  have share : settlementFee sampleEscrow.amount (.lit 250) = some (.lit 25) := by
    decide
  cases share.symm.trans charged
  obtain rfl : sellerAmount = .lit 975 := MachineInt.ext difference
  exact ⟨_, _, rfl, _, rfl, rfl⟩

theorem sampleOpen_forall {property : EscrowRecord → Prop} (holds : property sampleEscrow)
    (record : EscrowRecord) (found : sampleOpen.storage.escrow (.lit 1) = some record) :
    property record := by
  cases sampleOpen_escrow.symm.trans found
  exact holds

end Delego.Escrow
