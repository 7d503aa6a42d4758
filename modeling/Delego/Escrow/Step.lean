import Delego.Escrow.Spec
import Delego.Shared.Run

set_option autoImplicit false

namespace Delego.Escrow

open Shared Soroban Tx

variable {host : Host}

inductive ReleaseGrounds (env : Env) (s : Storage) (escrowId : U64) (record : EscrowRecord) :
    Call → Prop
  | release {caller : Address} (signed : caller ∈ env.signers) (funded : record.status = .funded)
      (entitled : caller = record.buyer ∨ isAdmin s caller = true) :
      ReleaseGrounds env s escrowId record (.release escrowId caller)
  | resolved {caller : Address} (signed : caller ∈ env.signers)
      (disputed : record.status = .disputed) (entitled : isAdmin s caller = true) :
      ReleaseGrounds env s escrowId record (.resolveDispute escrowId caller true)
  | quorum {caller : Address} {config : QuorumConfig} (signed : caller ∈ env.signers)
      (disputed : record.status = .disputed) (configured : s.quorumConfig = some config)
      (decided : quorumOutcome config (getDisputeVotes s escrowId) = .ok true) :
      ReleaseGrounds env s escrowId record (.resolveDisputeQuorum escrowId caller)

inductive RefundGrounds (env : Env) (s : Storage) (escrowId : U64) (record : EscrowRecord) :
    Call → Prop
  | refund {caller : Address} (signed : caller ∈ env.signers) (funded : record.status = .funded)
      (entitled : caller = record.seller ∨ isAdmin s caller = true ∨
        (caller = record.buyer ∧ record.timeoutLedger.toInt ≤ env.sequence.toInt)) :
      RefundGrounds env s escrowId record (.refund escrowId caller)
  | resolved {caller : Address} (signed : caller ∈ env.signers)
      (disputed : record.status = .disputed) (entitled : isAdmin s caller = true) :
      RefundGrounds env s escrowId record (.resolveDispute escrowId caller false)
  | quorum {caller : Address} {config : QuorumConfig} (signed : caller ∈ env.signers)
      (disputed : record.status = .disputed) (configured : s.quorumConfig = some config)
      (decided : quorumOutcome config (getDisputeVotes s escrowId) = .ok false) :
      RefundGrounds env s escrowId record (.resolveDisputeQuorum escrowId caller)

def EscrowEvent.isTransfer : EscrowEvent → Bool
  | .transfer .. => true
  | _ => false

/-- What one successful call does, guards included, as far as escrows, votes and funds go. -/
inductive Transition (host : Host) (env : Env) :
    Call → Chain host → Value → List EscrowEvent → Chain host → Prop
  | initialized {before : Chain host} {admin treasury : Address} {feeBps : U32}
      {minAmount maxAmount : I128} (fresh : before.storage.admin = none)
      (feeBound : feeBps.toInt ≤ 1000) :
      Transition host env (.initializeContract admin feeBps treasury minAmount maxAmount) before (.flag true) []
        { before with storage := { before.storage with
            admin := some admin
            lastEscrowId := some (.lit 0)
            feeConfig := some { feeBps, treasury }
            amountLimits := some { minAmount, maxAmount } } }
  | configured {call : Call} {before : Chain host} {log : List EscrowEvent} {s : Storage}
      (admin : s.admin.isSome) (escrows : s.escrow = before.storage.escrow)
      (ids : s.lastEscrowId = before.storage.lastEscrowId)
      (votes : s.disputeVotes = before.storage.disputeVotes)
      (fees : s.feeConfig = before.storage.feeConfig ∨
        ∃ config, s.feeConfig = some config ∧ config.feeBps.toInt ≤ 1000)
      (quorum : s.quorumConfig = before.storage.quorumConfig ∨
        ∃ admin arbiters threshold, call = .setQuorumConfig admin arbiters threshold ∧
          admin ∈ env.signers ∧ isAdmin before.storage admin = true ∧
          threshold.toInt ≠ 0 ∧ s.quorumConfig = some { arbiters, threshold })
      (noId : call.escrowId? = none) (silent : ∀ event ∈ log, event.isTransfer = false) :
      Transition host env call before (.flag true) log { before with storage := s }
  | voted {before : Chain host} {escrowId : U64} {arbiter : Address} {releaseToSeller : Bool}
      {config : QuorumConfig} {record : EscrowRecord} (signed : arbiter ∈ env.signers)
      (configured : before.storage.quorumConfig = some config)
      (member : arbiter ∈ config.arbiters)
      (found : before.storage.escrow escrowId = some record) (disputed : record.status = .disputed)
      (first : ∀ vote ∈ getDisputeVotes before.storage escrowId, vote.arbiter ≠ arbiter) :
      Transition host env (.voteDispute escrowId arbiter releaseToSeller) before (.flag true) []
        { before with storage := { before.storage with
            disputeVotes := Function.update before.storage.disputeVotes escrowId
              (some (getDisputeVotes before.storage escrowId ++ [{ arbiter, releaseToSeller }])) } }
  | deposited {before : Chain host} {buyer seller token : Address} {amount : I128}
      {orderId : BytesN 32} {timeoutLedgers timeoutLedger : U32} {lastId : U64}
      {ledger : host.Ledger} {limits : EscrowAmountLimits} (signed : buyer ∈ env.signers)
      (listed : isTokenAllowed before.storage token = true) (positive : 0 < amount.toInt)
      (limited : before.storage.amountLimits = some limits)
      (within : limits.minAmount.toInt ≤ amount.toInt ∧ amount.toInt ≤ limits.maxAmount.toInt)
      (paid : host.transfer before.ledger token buyer host.currentContract amount = some ledger)
      (next : lastId.toInt = (before.storage.lastEscrowId.getD (.lit 0)).toInt + 1)
      (timeout : timeoutLedger.toInt = env.sequence.toInt + timeoutLedgers.toInt) :
      Transition host env (.deposit buyer seller token amount orderId timeoutLedgers) before (.id lastId)
        [.transfer token buyer host.currentContract amount,
          .created lastId buyer seller token amount orderId timeoutLedger]
        { ledger, storage := { before.storage with
            lastEscrowId := some lastId
            escrow := Function.update before.storage.escrow lastId (some
              { escrowId := lastId, buyer, seller, token, amount, status := .funded, orderId
                createdAt := env.timestamp, timeoutLedger }) } }
  | disputed {before : Chain host} {escrowId : U64} {caller : Address} {record : EscrowRecord}
      (signed : caller ∈ env.signers) (found : before.storage.escrow escrowId = some record)
      (party : caller = record.buyer ∨ caller = record.seller)
      (funded : record.status = .funded) :
      Transition host env (.dispute escrowId caller) before (.flag true) [.disputed escrowId caller]
        { before with storage := { before.storage with
            escrow := Function.update before.storage.escrow escrowId
              (some { record with status := .disputed }) } }
  | released {call : Call} {before : Chain host} {escrowId : U64} {record : EscrowRecord}
      {config : FeeConfig} {fee sellerAmount : I128} {ledger : host.Ledger} {ending : EscrowEvent}
      (found : before.storage.escrow escrowId = some record)
      (grounds : ReleaseGrounds env before.storage escrowId record call)
      (feeConfig : before.storage.feeConfig = some config)
      (charged : settlementFee record.amount config.feeBps = some fee)
      (difference : sellerAmount.toInt = record.amount.toInt - fee.toInt)
      (paid : Pays host record.token (sellerPayments config record fee sellerAmount)
        before.ledger ledger)
      (closing : ending.isTransfer = false) :
      Transition host env call before (.flag true)
        (paymentEvents host record.token (sellerPayments config record fee sellerAmount) ++ [ending])
        { ledger, storage := { before.storage with
            escrow := Function.update before.storage.escrow escrowId
              (some { record with status := .released }) } }
  | refunded {call : Call} {before : Chain host} {escrowId : U64} {record : EscrowRecord}
      {ledger : host.Ledger} {ending : EscrowEvent}
      (found : before.storage.escrow escrowId = some record)
      (grounds : RefundGrounds env before.storage escrowId record call)
      (paid : Pays host record.token (buyerPayments record) before.ledger ledger)
      (closing : ending.isTransfer = false) :
      Transition host env call before (.flag true)
        (paymentEvents host record.token (buyerPayments record) ++ [ending])
        { ledger, storage := { before.storage with
            escrow := Function.update before.storage.escrow escrowId
              (some { record with status := .refunded }) } }

theorem configured_transition {env : Env} {call : Call} {chain : Chain host} {s : Storage}
    {log : List EscrowEvent} (admin : s.admin.isSome)
    (escrows : s.escrow = chain.storage.escrow) (ids : s.lastEscrowId = chain.storage.lastEscrowId)
    (votes : s.disputeVotes = chain.storage.disputeVotes)
    (fees : s.feeConfig = chain.storage.feeConfig) (quorum : s.quorumConfig = chain.storage.quorumConfig)
    (noId : call.escrowId? = none) (silent : ∀ event ∈ log, event.isTransfer = false) :
    Transition host env call chain (.flag true) log { chain with storage := s } :=
  .configured admin escrows ids votes (.inl fees) (.inl quorum) noId silent

theorem settled_transition {env : Env} {call : Call} {chain : Chain host} {escrowId : U64}
    {record : EscrowRecord} {releaseToSeller answer : Bool} {caller : Address}
    {after : Frame (Chain host) EscrowEvent}
    (found : chain.storage.escrow escrowId = some record)
    (release : releaseToSeller = true → ReleaseGrounds env chain.storage escrowId record call)
    (refund : releaseToSeller = false → RefundGrounds env chain.storage escrowId record call)
    (done : (settleDispute escrowId record releaseToSeller caller : EscrowTx host Bool).Yields
      ⟨chain, []⟩ answer after) :
    Transition host env call chain (.flag answer) after.log after.state := by
  obtain ⟨_, _, settled, rfl, rfl⟩ := settleDispute_yields.mp done
  rcases yields_settle.mp settled with ⟨side, _, _, paid, stored⟩ | ⟨side, _, paid, stored⟩
  · obtain ⟨config, fee, configured, charged, difference, ledger, payment, rfl⟩ :=
      yields_payToSeller.mp paid
    cases yields_setStatus.mp stored
    exact .released found (release side) configured charged difference payment rfl
  · obtain ⟨ledger, payment, rfl⟩ := yields_payToBuyer.mp paid
    cases yields_setStatus.mp stored
    exact .refunded found (refund side) payment rfl

theorem perform_transition {env : Env} {call : Call} {chain : Chain host} {value : Value}
    {after : Frame (Chain host) EscrowEvent}
    (done : (perform env call : EscrowTx host Value).Yields ⟨chain, []⟩ value after) :
    Transition host env call chain value after.log after.state := by
  cases call <;> simp only [perform, yields_map] at done <;> obtain ⟨answer, done, rfl⟩ := done
  case initializeContract =>
    obtain ⟨fresh, feeBound, _, rfl, rfl⟩ := initializeContract_yields.mp done
    exact .initialized fresh feeBound
  case setLimits =>
    obtain ⟨_, admin, _, rfl, rfl⟩ := setLimits_yields.mp done
    exact configured_transition (isAdmin_initialized admin) rfl rfl rfl rfl rfl rfl (by simp)
  case setQuorumConfig admin arbiters threshold =>
    obtain ⟨signed, entitled, threshold, _, rfl, rfl⟩ := setQuorumConfig_yields.mp done
    exact .configured (isAdmin_initialized entitled) rfl rfl rfl (.inl rfl)
      (.inr ⟨admin, arbiters, _, rfl, signed, entitled, threshold.1, rfl⟩) rfl (by simp)
  case voteDispute =>
    obtain ⟨signed, config, configured, member, record, found, disputed, first, rfl, rfl⟩ :=
      voteDispute_yields.mp done
    exact .voted signed configured member found disputed (fun vote cast same => first ⟨vote, cast, same⟩)
  case resolveDisputeQuorum =>
    obtain ⟨signed, record, found, disputed, config, configured, side, decided, done⟩ :=
      resolveDisputeQuorum_yields.mp done
    exact settled_transition found (fun toSeller => .quorum signed disputed configured (toSeller ▸ decided))
      (fun toBuyer => .quorum signed disputed configured (toBuyer ▸ decided)) done
  case updateFee =>
    obtain ⟨_, admin, bound, config, configured, rfl, rfl⟩ := updateFee_yields.mp done
    exact .configured (isAdmin_initialized admin) rfl rfl rfl (.inr ⟨_, rfl, bound⟩) (.inl rfl) rfl (by simp)
  case addToken =>
    obtain ⟨_, admin, ⟨_, rfl⟩ | ⟨_, rfl⟩, rfl⟩ := addToken_yields.mp done
    · exact configured_transition (isAdmin_initialized admin) rfl rfl rfl rfl rfl rfl (by simp)
    · exact configured_transition (isAdmin_initialized admin) rfl rfl rfl rfl rfl rfl (by simp)
  case removeToken =>
    obtain ⟨_, admin, rfl, rfl⟩ := removeToken_yields.mp done
    exact configured_transition (isAdmin_initialized admin) rfl rfl rfl rfl rfl rfl (by simp)
  case deposit =>
    obtain ⟨signed, _, listed, positive, limits, limited, above, below, ledger, paid, next,
      timeoutLedger, timeout, rfl⟩ := deposit_yields.mp done
    exact .deposited signed listed positive limited ⟨above, below⟩ paid next timeout
  case release =>
    obtain ⟨signed, record, found, entitled, funded, amount, middle, paid, rfl, rfl⟩ :=
      release_yields.mp done
    obtain ⟨config, fee, configured, charged, difference, ledger, payment, rfl⟩ :=
      yields_payToSeller.mp paid
    exact .released found (.release signed funded (or_iff_not_imp_left.mpr entitled)) configured
      charged difference payment rfl
  case refund =>
    obtain ⟨signed, record, found, funded, entitled, _, middle, paid, rfl, rfl⟩ :=
      refund_yields.mp done
    obtain ⟨ledger, payment, rfl⟩ := yields_payToBuyer.mp paid
    exact .refunded found (.refund signed funded entitled) payment rfl
  case dispute =>
    obtain ⟨signed, record, found, party, funded, rfl, rfl⟩ := dispute_yields.mp done
    exact .disputed signed found (or_iff_not_imp_left.mpr party) funded
  case resolveDispute =>
    obtain ⟨signed, entitled, record, found, disputed, done⟩ := resolveDispute_yields.mp done
    exact settled_transition found (fun toSeller => by subst toSeller; exact .resolved signed disputed entitled)
      (fun toBuyer => by subst toBuyer; exact .resolved signed disputed entitled) done
  case proposeAdmin =>
    obtain ⟨_, admin, rfl, rfl⟩ := proposeAdmin_yields.mp done
    exact configured_transition (congrArg Option.isSome admin) rfl rfl rfl rfl rfl rfl (by simp [EscrowEvent.isTransfer])
  case acceptAdmin =>
    obtain ⟨_, _, rfl, rfl⟩ := acceptAdmin_yields.mp done
    exact configured_transition rfl rfl rfl rfl rfl rfl rfl (by simp [EscrowEvent.isTransfer])
  case cancelAdminTransfer =>
    obtain ⟨_, admin, _, rfl, rfl⟩ := cancelAdminTransfer_yields.mp done
    exact configured_transition (congrArg Option.isSome admin) rfl rfl rfl rfl rfl rfl (by simp [EscrowEvent.isTransfer])
  case addCoAdmin =>
    obtain ⟨_, admin, _, _, rfl, rfl⟩ := addCoAdmin_yields.mp done
    exact configured_transition (congrArg Option.isSome admin) rfl rfl rfl rfl rfl rfl (by simp)
  case removeCoAdmin =>
    obtain ⟨_, admin, _, rfl, rfl⟩ := removeCoAdmin_yields.mp done
    exact configured_transition (congrArg Option.isSome admin) rfl rfl rfl rfl rfl rfl (by simp)
  case setCreatePaused =>
    obtain ⟨_, admin, rfl, rfl⟩ := setCreatePaused_yields.mp done
    exact configured_transition (isAdmin_initialized admin) rfl rfl rfl rfl rfl rfl
      (by simp [EscrowEvent.isTransfer])

/-- What moves the system: a call to the contract, or the token ledgers moving without it. -/
inductive Input (host : Host) where
  | call (invocation : Invocation Call)
  | elsewhere (ledger : host.Ledger)

def Input.signers : Input host → List Address
  | .call invocation => invocation.env.signers
  | .elsewhere _ => []

abbrev EscrowOutcome := Outcome EscrowEvent EscrowError Value

abbrev EscrowReceipt (host : Host) := Receipt (Chain host) (Input host) EscrowOutcome

def step (host : Host) (chain : Chain host) : Input host → EscrowOutcome × Chain host
  | .call invocation => invoke (perform invocation.env invocation.call) chain
  | .elsewhere ledger => (.ok (.void, []), { chain with ledger })

def accepted (receipt : EscrowReceipt host) : Option (Invocation Call × Value × List EscrowEvent) :=
  match receipt.input, receipt.output with
  | .call invocation, .ok (value, log) => some (invocation, value, log)
  | _, _ => none

def deployed (ledger : host.Ledger) : Chain host := { storage := .empty, ledger }

inductive Observed (host : Host) : EscrowReceipt host → Prop
  | accepted {before after : Chain host} {env : Env} {call : Call} {value : Value}
      {log : List EscrowEvent} (transition : Transition host env call before value log after) :
      Observed host ⟨before, .call ⟨env, call⟩, .ok (value, log), after⟩
  | failed {before : Chain host} {invocation : Invocation Call} {fault : Fault EscrowError} :
      Observed host ⟨before, .call invocation, .error fault, before⟩
  | elsewhere {before : Chain host} {ledger : host.Ledger} :
      Observed host ⟨before, .elsewhere ledger, .ok (.void, []), { before with ledger }⟩

theorem observe_observed (chain : Chain host) (input : Input host) :
    Observed host (Run.observe (step host) chain input) := by
  cases input with
  | elsewhere ledger => exact .elsewhere
  | call invocation =>
    unfold Run.observe step
    dsimp only
    cases result : (invoke (perform invocation.env invocation.call) chain).1 with
    | error fault =>
      rw [invoke_error result]
      exact .failed
    | ok returned => exact .accepted (perform_transition (invoke_ok.mp result))

theorem history_observed (chain : Chain host) (inputs : List (Input host)) :
    ∀ receipt ∈ Run.history (step host) chain inputs, Observed host receipt :=
  Run.history_forall _ _ observe_observed inputs

def sampleHost : Host := plainHost (.contract 9)

-- The buyer holds ten thousand of every token, and nobody else holds any.
def sampleLedger : sampleHost.Ledger := fun _ holder => if holder = .sample 3 then 10000 else 0

def sampleCall (sequence : U32) (signer : Address) (call : Call) : Input sampleHost :=
  .call ⟨{ sequence, timestamp := .lit 1700000000, signers := [signer] }, call⟩

-- Admin 1, treasury 2, buyer 3, seller 4, token 5; newest first.
def sampleInputs : List (Input sampleHost) :=
  [ sampleCall (.lit 12) (.sample 3) (.release (.lit 1) (.sample 3)),
    sampleCall (.lit 11) (.sample 3)
      (.deposit (.sample 3) (.sample 4) (.sample 5) (.lit 500) 78 (.lit 100)),
    sampleCall (.lit 10) (.sample 3)
      (.deposit (.sample 3) (.sample 4) (.sample 5) (.lit 1000) 77 (.lit 100)),
    sampleCall (.lit 9) (.sample 1) (.addToken (.sample 1) (.sample 5)),
    sampleCall (.lit 8) (.sample 1)
      (.initializeContract (.sample 1) (.lit 250) (.sample 2) (.lit 1) (.lit 2000)) ]

example : [Address.sample 2, .sample 3, .sample 4, .contract 9].map
    ((Run.final (step sampleHost) (deployed sampleLedger) sampleInputs).ledger (.sample 5)) =
      [25, 8500, 975, 500] := by
  decide

end Delego.Escrow
