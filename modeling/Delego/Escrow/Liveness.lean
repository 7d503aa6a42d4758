import Delego.Escrow.Eligibility
import Delego.Escrow.Quorum
import Delego.Escrow.Solvency

set_option autoImplicit false

namespace Delego.Escrow

open Shared Soroban Tx

def PaysOut (host : Host) : Prop :=
  ∀ (ledger : host.Ledger) (token target : Address) (amount : I128), 0 ≤ amount.toInt →
    amount.toInt ≤ host.balance ledger token host.currentContract →
      (host.transfer ledger token host.currentContract target amount).isSome

theorem plainHost_paysOut (currentContract : Address) : PaysOut (plainHost currentContract) := by
  intro ledger token target amount nonneg covered
  simp only [plainHost] at ledger covered ⊢
  rw [if_neg (by omega)]
  rfl

variable {host : Host} {chain : Chain host} {escrowId : U64} {record : EscrowRecord}

section Payable

theorem paymentTotal_nonneg {payments : List Payment}
    (nonneg : ∀ payment ∈ payments, 0 ≤ payment.amount.toInt) : 0 ≤ paymentTotal payments := by
  induction payments with
  | nil => simp [paymentTotal]
  | cons payment rest ih =>
    have first := nonneg payment (by simp)
    have later := ih fun other member => nonneg other (List.mem_cons_of_mem _ member)
    simp only [paymentTotal]
    omega

/-- Payments go through as long as the contract has their total. -/
theorem pays_exists (exact : host.ExactTransfers) (paysOut : PaysOut host) {token : Address}
    {payments : List Payment} {ledger : host.Ledger}
    (nonneg : ∀ payment ∈ payments, 0 ≤ payment.amount.toInt)
    (covered : paymentTotal payments ≤ host.balance ledger token host.currentContract) :
    ∃ ledger', Pays host token payments ledger ledger' := by
  induction payments generalizing ledger with
  | nil => exact ⟨ledger, rfl⟩
  | cons payment rest ih =>
    have first := nonneg payment (by simp)
    have others : ∀ other ∈ rest, 0 ≤ other.amount.toInt :=
      fun other member => nonneg other (List.mem_cons_of_mem _ member)
    have remaining := paymentTotal_nonneg others
    simp only [paymentTotal] at covered
    obtain ⟨middle, paid⟩ := Option.isSome_iff_exists.mp
      (paysOut ledger token payment.target payment.amount first (by omega))
    have one : Pays host token [payment] ledger middle := ⟨middle, paid, rfl⟩
    have kept := pays_balance exact (by simpa using first) one token
    simp only [paymentTotal, if_true] at kept
    obtain ⟨ledger', later⟩ : ∃ ledger', Pays host token rest middle ledger' := ih others (by omega)
    exact ⟨ledger', middle, paid, later⟩

theorem live_covered (formed : WellFormed chain.storage) (solvent : Solvent chain)
    (found : chain.storage.escrow escrowId = some record) (live : record.status.live = true) :
    record.amount.toInt ≤ host.balance chain.ledger record.token host.currentContract := by
  have within := entry_le_bookTotal (owed_entry_nonneg formed.positive record.token) escrowId
  simp only [found, Option.elim_some, owed, live, and_self, if_true] at within
  exact within.trans (solvent record.token)

theorem live_buyerPayable (exact : host.ExactTransfers) (paysOut : PaysOut host)
    (formed : WellFormed chain.storage) (solvent : Solvent chain)
    (found : chain.storage.escrow escrowId = some record) (live : record.status.live = true) :
    BuyerPayable chain record := by
  apply pays_exists exact paysOut
  · simpa [buyerPayments] using Int.le_of_lt (formed.positive escrowId record found)
  · simpa [buyerPayments, paymentTotal] using live_covered formed solvent found live

theorem live_sellerPayable (exact : host.ExactTransfers) (paysOut : PaysOut host)
    (formed : WellFormed chain.storage) (solvent : Solvent chain)
    (found : chain.storage.escrow escrowId = some record) (live : record.status.live = true) :
    SellerPayable chain record := by
  intro config fee sellerAmount configured charged difference
  have amount := Int.le_of_lt (formed.positive escrowId record found)
  have bounds := settlementFee_bounds amount (formed.feeBound config configured) charged
  apply pays_exists exact paysOut
  · exact sellerPayments_nonneg (by omega)
  · rw [sellerPayments_total bounds.1 difference]
    exact live_covered formed solvent found live

theorem live_payable (exact : host.ExactTransfers) (paysOut : PaysOut host)
    (formed : WellFormed chain.storage) (solvent : Solvent chain)
    (found : chain.storage.escrow escrowId = some record) (live : record.status.live = true)
    (side : Bool) : Payable chain record side := by
  cases side with
  | true => exact live_sellerPayable exact paysOut formed solvent found live
  | false => exact live_buyerPayable exact paysOut formed solvent found live

end Payable

structure Sound (chain : Chain host) : Prop where
  formed : WellFormed chain.storage
  divisible : Divisible chain.storage
  solvent : Solvent chain

structure Undrained (host : Host) (ledger : host.Ledger) (inputs : List (Input host)) : Prop where
  silent : ∀ input ∈ inputs, host.currentContract ∉ input.signers
  undrained : ∀ receipt ∈ Run.history (step host) (deployed ledger) inputs,
    ∀ elsewhere, receipt.input = .elsewhere elsewhere → ∀ token,
      host.balance receipt.before.ledger token host.currentContract ≤
        host.balance elsewhere token host.currentContract

theorem final_sound (exact : host.ExactTransfers) {ledger : host.Ledger} {inputs : List (Input host)}
    (undrained : Undrained host ledger inputs) :
    Sound (Run.final (step host) (deployed ledger) inputs) := by
  refine ⟨final_wellFormed ledger inputs, final_divisible ledger inputs, ?_⟩
  induction inputs with
  | nil => exact deployed_solvent ledger
  | cons input earlier ih =>
    have before := ih ⟨fun input member => undrained.silent input (List.mem_cons_of_mem _ member),
      fun receipt member => undrained.undrained receipt (List.mem_cons_of_mem _ member)⟩
    have observed := observe_observed (Run.final (step host) (deployed ledger) earlier) input
    have after := receipt_solvent exact observed (undrained.silent input (by simp))
      (undrained.undrained _ (by simp [Run.history])) (final_wellFormed ledger earlier) before
    exact after

structure Closable (chain : Chain host) (escrowId : U64) (record : EscrowRecord) : Prop where
  governed : ∃ primary, chain.storage.admin = some primary
  released : record.status = .funded → ∀ env caller, caller ∈ env.signers →
    caller = record.buyer ∨ isAdmin chain.storage caller = true →
      Succeeds chain env (.release escrowId caller)
  refunded : record.status = .funded → ∀ env caller, caller ∈ env.signers →
    (caller = record.seller ∨ isAdmin chain.storage caller = true ∨
      (caller = record.buyer ∧ record.timeoutLedger.toInt ≤ env.sequence.toInt)) →
      Succeeds chain env (.refund escrowId caller)
  resolved : record.status = .disputed → ∀ env caller, caller ∈ env.signers →
    isAdmin chain.storage caller = true → ∀ side,
      Succeeds chain env (.resolveDispute escrowId caller side)
  decided : record.status = .disputed → ∀ env caller config side, caller ∈ env.signers →
    chain.storage.quorumConfig = some config →
      quorumOutcome config (getDisputeVotes chain.storage escrowId) = .ok side →
        Succeeds chain env (.resolveDisputeQuorum escrowId caller)

section Closing

theorem settleDispute_returns {call : Call} {env : Env} (caller : Address) {side : Bool}
    (sound : Sound chain) (found : chain.storage.escrow escrowId = some record)
    (payable : Payable chain record side)
    (performed : ∀ answer after, (settleDispute escrowId record side caller : EscrowTx host Bool).Yields
      ⟨chain, []⟩ answer after →
        (perform env call : EscrowTx host Value).Yields ⟨chain, []⟩ (.flag answer) after) :
    Succeeds chain env call := by
  obtain ⟨answer, after, settled⟩ :=
    settleDispute_succeeds caller sound.formed sound.divisible found payable
  exact succeeds_iff.mpr ⟨_, _, performed answer after settled⟩

theorem Sound.closable (sound : Sound chain) (exact : host.ExactTransfers) (paysOut : PaysOut host)
    (found : chain.storage.escrow escrowId = some record) (live : record.status.live = true) :
    Closable chain escrowId record := by
  have payable := live_payable exact paysOut sound.formed sound.solvent found live
  constructor
  case governed =>
    exact Option.isSome_iff_exists.mp (sound.divisible.started escrowId record found)
  case released =>
    intro funded env caller signed entitled
    have holds {property : EscrowRecord → Prop} (ours : property record) :
        ∀ held, chain.storage.escrow escrowId = some held → property held := by
      intro held present
      cases found.symm.trans present
      exact ours
    exact (release_succeeds_iff sound.formed sound.divisible signed (holds entitled)
      (holds (payable true))).mpr ⟨record, found, funded⟩
  case refunded =>
    intro funded env caller signed entitled
    refine (refund_succeeds_iff signed ?_).mpr ⟨record, found, funded, entitled⟩
    intro held present
    cases found.symm.trans present
    exact payable false
  case resolved =>
    intro disputed env caller signed entitled side
    refine settleDispute_returns caller sound found (payable side) ?_
    intro answer after settled
    simp only [perform, yields_map]
    exact ⟨answer, resolveDispute_yields.mpr ⟨signed, entitled, record, found, disputed, settled⟩, rfl⟩
  case decided =>
    intro disputed env caller config side signed configured outcome
    refine settleDispute_returns caller sound found (payable side) ?_
    intro answer after settled
    simp only [perform, yields_map]
    exact ⟨answer, resolveDisputeQuorum_yields.mpr
      ⟨signed, record, found, disputed, config, configured, side, outcome, settled⟩, rfl⟩

end Closing

/-- No deposit is ever stuck: whatever happened before, each way out of an open escrow is open to
those it is for, the pause, the whitelist and the limits notwithstanding. -/
theorem open_escrow_closable (host : Host) (exact : host.ExactTransfers) (paysOut : PaysOut host)
    (ledger : host.Ledger) (inputs : List (Input host)) (undrained : Undrained host ledger inputs)
    (escrowId : U64) (record : EscrowRecord)
    (found : (Run.final (step host) (deployed ledger) inputs).storage.escrow escrowId = some record)
    (live : record.status.live = true) :
    Closable (Run.final (step host) (deployed ledger) inputs) escrowId record :=
  (final_sound exact undrained).closable exact paysOut found live

theorem sampleInputs_undrained : Undrained sampleHost sampleLedger (sampleInputs.drop 1) where
  silent := by decide
  undrained := by
    intro receipt member elsewhere input
    have among := List.mem_map_of_mem (f := Receipt.input) member
    rw [Run.history_input, input] at among
    simp [sampleInputs, sampleCall] at among

theorem open_escrow_closable_sample : Closable sampleOpen (.lit 1) sampleEscrow :=
  open_escrow_closable sampleHost (plainHost_exact _) (plainHost_paysOut _) sampleLedger
    (sampleInputs.drop 1) sampleInputs_undrained (.lit 1) sampleEscrow sampleOpen_escrow rfl

section WindUp

def closingCall (admin : Address) (escrowId : U64) : EscrowStatus → Option Call
  | .funded => some (.refund escrowId admin)
  | .disputed => some (.resolveDispute escrowId admin false)
  | .released | .refunded => none

def closingCalls (admin : Address) (s : Storage) (escrowIds : List U64) : List Call :=
  escrowIds.filterMap fun escrowId => (s.escrow escrowId).bind fun record =>
    closingCall admin escrowId record.status

def made (env : Env) (calls : List Call) : List (Input host) := calls.map fun call => .call ⟨env, call⟩

def EscrowRecord.closed (record : EscrowRecord) : EscrowRecord :=
  if record.status.live then { record with status := .refunded } else record

variable {env : Env} {admin : Address} {call : Call} {value : Value}
  {after : Frame (Chain host) EscrowEvent}

theorem closingCall_live {status : EscrowStatus}
    (chosen : closingCall admin escrowId status = some call) : status.live = true := by
  cases status with
  | funded | disputed => rfl
  | released | refunded => cases chosen

theorem closed_of_none
    (nothing : (chain.storage.escrow escrowId).bind (fun record =>
      closingCall admin escrowId record.status) = none) :
    (chain.storage.escrow escrowId).map EscrowRecord.closed = chain.storage.escrow escrowId := by
  cases found : chain.storage.escrow escrowId with
  | none => rfl
  | some record =>
    rw [found] at nothing
    cases status : record.status with
    | funded | disputed => simp [closingCall, status] at nothing
    | released | refunded => simp [EscrowRecord.closed, status, EscrowStatus.live]

theorem Closable.closing (closable : Closable chain escrowId record) (signed : admin ∈ env.signers)
    (entitled : isAdmin chain.storage admin = true)
    (chosen : closingCall admin escrowId record.status = some call) : Succeeds chain env call := by
  cases status : record.status with
  | funded =>
    rw [status] at chosen
    cases chosen
    exact closable.refunded status env admin signed (.inr (.inl entitled))
  | disputed =>
    rw [status] at chosen
    cases chosen
    exact closable.resolved status env admin signed entitled false
  | released | refunded =>
    rw [status] at chosen
    cases chosen

theorem closing_storage (found : chain.storage.escrow escrowId = some record)
    (chosen : closingCall admin escrowId record.status = some call)
    (done : (perform env call : EscrowTx host Value).Yields ⟨chain, []⟩ value after) :
    after.state.storage = { chain.storage with
      escrow := Function.update chain.storage.escrow escrowId
        (some { record with status := .refunded }) } := by
  cases status : record.status with
  | funded =>
    rw [status] at chosen
    cases chosen
    simp only [perform, yields_map] at done
    obtain ⟨_, done, _⟩ := done
    obtain ⟨_, held, present, _, _, _, middle, paid, rfl, _⟩ := refund_yields.mp done
    obtain ⟨ledger, _, rfl⟩ := yields_payToBuyer.mp paid
    cases found.symm.trans present
    rfl
  | disputed =>
    rw [status] at chosen
    cases chosen
    simp only [perform, yields_map] at done
    obtain ⟨_, done, _⟩ := done
    obtain ⟨_, _, held, present, _, resolved⟩ := resolveDispute_yields.mp done
    obtain ⟨_, middle, paidOut, rfl, _⟩ := settleDispute_yields.mp resolved
    rcases yields_settle.mp paidOut with ⟨side, _⟩ | ⟨_, before, paid, stored⟩
    · cases side
    · obtain ⟨ledger, _, rfl⟩ := yields_payToBuyer.mp paid
      cases yields_setStatus.mp stored
      cases found.symm.trans present
      rfl
  | released | refunded =>
    rw [status] at chosen
    cases chosen

theorem owed_closed (token : Address) (record : EscrowRecord) : owed token record.closed = 0 := by
  unfold EscrowRecord.closed
  split
  · simp [owed, EscrowStatus.live]
  · next done => simp [owed, done]

structure WoundUp (before after : Chain host) (escrowIds : List U64) : Prop where
  sound : Sound after
  governed : ∀ address, isAdmin after.storage address = isAdmin before.storage address
  closed : ∀ escrowId, after.storage.escrow escrowId =
    if escrowId ∈ escrowIds then (before.storage.escrow escrowId).map EscrowRecord.closed
    else before.storage.escrow escrowId

theorem closing_sound (exact : host.ExactTransfers) (sound : Sound chain)
    (silent : host.currentContract ∉ env.signers)
    (found : chain.storage.escrow escrowId = some record)
    (chosen : closingCall admin escrowId record.status = some call)
    (done : (perform env call : EscrowTx host Value).Yields ⟨chain, []⟩ value after) :
    Sound after.state := by
  have transition := perform_transition done
  have storage := closing_storage found chosen done
  refine ⟨transition_wellFormed transition sound.formed, ?_,
    transition_solvent exact silent sound.formed transition sound.solvent⟩
  have started := sound.divisible.started escrowId record found
  rw [storage]
  exact ⟨sound.divisible.charged, fun _ _ _ => started⟩

theorem windUp_run (exact : host.ExactTransfers) (paysOut : PaysOut host) (sound : Sound chain)
    (signed : admin ∈ env.signers) (silent : host.currentContract ∉ env.signers)
    (entitled : isAdmin chain.storage admin = true) {escrowIds : List U64} (once : escrowIds.Nodup) :
    WoundUp chain (Run.final (step host) chain
        (made env (closingCalls admin chain.storage escrowIds))) escrowIds ∧
      ∀ receipt ∈ Run.history (step host) chain
          (made env (closingCalls admin chain.storage escrowIds)),
        ∃ value log, receipt.output = .ok (value, log) := by
  induction escrowIds with
  | nil =>
    refine ⟨⟨sound, fun _ => rfl, fun _ => ?_⟩, by simp [closingCalls, made, Run.history]⟩
    simp [closingCalls, made, Run.final]
  | cons escrowId earlier ih =>
    obtain ⟨new, once⟩ := List.nodup_cons.mp once
    obtain ⟨wound, returned⟩ := ih once
    have same := wound.closed escrowId
    rw [if_neg new] at same
    cases chosen : (chain.storage.escrow escrowId).bind fun record =>
        closingCall admin escrowId record.status with
    | none =>
      -- An escrow that is not open takes no call.
      have calls : closingCalls admin chain.storage (escrowId :: earlier) =
          closingCalls admin chain.storage earlier := by
        simp [closingCalls, chosen]
      rw [calls]
      refine ⟨⟨wound.sound, wound.governed, fun other => ?_⟩, returned⟩
      by_cases ours : other = escrowId
      · rw [ours, same, if_pos (by simp), closed_of_none chosen]
      · rw [wound.closed other]
        simp [ours]
    | some call =>
      have calls : closingCalls admin chain.storage (escrowId :: earlier) =
          call :: closingCalls admin chain.storage earlier := by
        simp [closingCalls, chosen]
      obtain ⟨record, found, chosen⟩ := Option.bind_eq_some_iff.mp chosen
      rw [found] at same
      have live := closingCall_live chosen
      have closable := wound.sound.closable exact paysOut same live
      obtain ⟨value, log, returns⟩ :=
        closable.closing signed ((wound.governed admin).trans entitled) chosen
      have done := invoke_ok.mp returns
      have storage := closing_storage same chosen done
      have after := closing_sound exact wound.sound silent same chosen done
      rw [calls]
      refine ⟨⟨after, ?_, ?_⟩, ?_⟩
      · intro address
        have unchanged := congrArg (fun s => isAdmin s address) storage
        exact unchanged.trans (wound.governed address)
      · intro other
        have written := congrArg (fun s => s.escrow other) storage
        refine written.trans ?_
        by_cases ours : other = escrowId
        · subst ours
          simp [found, EscrowRecord.closed, live]
        · simp [ours, wound.closed other]
      · intro receipt member
        rcases List.mem_cons.mp member with last | before
        · rw [last]
          exact ⟨value, log, returns⟩
        · exact returned receipt before

/-- The whole contract can be wound up by any one admin: calls that all return take every open escrow
back to its buyer, and leave nothing owed. -/
theorem escrow_wind_up (host : Host) (exact : host.ExactTransfers) (paysOut : PaysOut host)
    (ledger : host.Ledger) (inputs : List (Input host)) (undrained : Undrained host ledger inputs)
    (admin : Address) (outside : admin ≠ host.currentContract)
    (entitled : isAdmin (Run.final (step host) (deployed ledger) inputs).storage admin = true)
    (env : Env) (signers : env.signers = [admin]) :
    ∃ calls : List Call,
      (∀ receipt ∈ Run.history (step host) (Run.final (step host) (deployed ledger) inputs) (made env calls),
        ∃ value log, receipt.output = .ok (value, log)) ∧
      (∀ escrowId, (Run.final (step host) (deployed ledger) (made env calls ++ inputs)).storage.escrow
          escrowId =
        ((Run.final (step host) (deployed ledger) inputs).storage.escrow escrowId).map
          EscrowRecord.closed) ∧
      ∀ token, outstanding
        (Run.final (step host) (deployed ledger) (made env calls ++ inputs)).storage token = 0 := by
  have sound := final_sound exact undrained
  have silent : host.currentContract ∉ env.signers := by
    rw [signers]
    simpa using Ne.symm outside
  obtain ⟨wound, returned⟩ := windUp_run exact paysOut sound (by simp [signers]) silent entitled
    (Finset.nodup_toList (Finset.univ : Finset U64))
  refine ⟨_, returned, ?_⟩
  rw [Run.final_append]
  have closed (escrowId : U64) := wound.closed escrowId
  simp only [Finset.mem_toList, Finset.mem_univ, if_true] at closed
  refine ⟨closed, fun token => bookTotal_zero fun escrowId => ?_⟩
  rw [closed escrowId]
  cases (Run.final (step host) (deployed ledger) inputs).storage.escrow escrowId with
  | none => rfl
  | some record => exact owed_closed token record

theorem escrow_wind_up_sample : ∃ calls : List Call,
    (∀ receipt ∈ Run.history (step sampleHost) sampleOpen
        (made (sampleEnv (.lit 20) (.sample 1)) calls), ∃ value log, receipt.output = .ok (value, log)) ∧
    (∀ escrowId, (Run.final (step sampleHost) (deployed sampleLedger)
        (made (sampleEnv (.lit 20) (.sample 1)) calls ++ sampleInputs.drop 1)).storage.escrow escrowId =
      (sampleOpen.storage.escrow escrowId).map EscrowRecord.closed) ∧
    ∀ token, outstanding (Run.final (step sampleHost) (deployed sampleLedger)
      (made (sampleEnv (.lit 20) (.sample 1)) calls ++ sampleInputs.drop 1)).storage token = 0 :=
  escrow_wind_up sampleHost (plainHost_exact _) (plainHost_paysOut _) sampleLedger
    (sampleInputs.drop 1) sampleInputs_undrained (.sample 1) (by decide) (by decide)
    (sampleEnv (.lit 20) (.sample 1)) rfl

end WindUp

end Delego.Escrow
