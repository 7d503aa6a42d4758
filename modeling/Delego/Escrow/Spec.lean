import Delego.Escrow.Contract

set_option autoImplicit false

namespace Delego.Escrow

open Shared Soroban Tx

variable {host : Host} {before after : Frame (Chain host) EscrowEvent}

@[simp] theorem yields_storage {s : Storage} :
    (storage : EscrowTx host Storage).Yields before s after ↔
      s = before.state.storage ∧ after = before := by
  simp only [storage, yields_bind, yields_read, yields_pure]
  constructor
  · intro done
    obtain ⟨_, _, ⟨rfl, rfl⟩, rfl, rfl⟩ := done
    exact ⟨rfl, rfl⟩
  · intro done
    obtain ⟨rfl, rfl⟩ := done
    exact ⟨_, _, ⟨rfl, rfl⟩, rfl, rfl⟩

@[simp] theorem yields_setStorage {updated : Storage} {u : Unit} :
    (setStorage updated : EscrowTx host Unit).Yields before u after ↔
      after = { before with state := { before.state with storage := updated } } := by
  simp [setStorage]

@[simp] theorem yields_setStatus {escrowId : U64} {record : EscrowRecord} {status : EscrowStatus}
    {u : Unit} : (setStatus escrowId record status : EscrowTx host Unit).Yields before u after ↔
      after = { before with state := { before.state with storage := { before.state.storage with
        escrow := Function.update before.state.storage.escrow escrowId
          (some { record with status }) } } } := by
  simp [setStatus]

@[simp] theorem yields_transfer {token source target : Address} {amount : I128} {u : Unit} :
    (transfer token source target amount : EscrowTx host Unit).Yields before u after ↔
      ∃ ledger, host.transfer before.state.ledger token source target amount = some ledger ∧
        after = { state := { before.state with ledger },
                  log := before.log ++ [.transfer token source target amount] } := by
  simp [transfer]

structure Payment where
  target : Address
  amount : I128
  deriving DecidableEq

def Pays (host : Host) (token : Address) : List Payment → host.Ledger → host.Ledger → Prop
  | [], ledger, ledger' => ledger' = ledger
  | payment :: rest, ledger, ledger' => ∃ middle,
      host.transfer ledger token host.currentContract payment.target payment.amount = some middle ∧
        Pays host token rest middle ledger'

def paymentEvents (host : Host) (token : Address) (payments : List Payment) : List EscrowEvent :=
  payments.map fun payment => .transfer token host.currentContract payment.target payment.amount

-- A fee of zero is not transferred at all.
def sellerPayments (config : FeeConfig) (record : EscrowRecord) (fee sellerAmount : I128) :
    List Payment :=
  (if 0 < fee.toInt then [⟨config.treasury, fee⟩] else []) ++ [⟨record.seller, sellerAmount⟩]

def buyerPayments (record : EscrowRecord) : List Payment := [⟨record.buyer, record.amount⟩]

@[simp] theorem yields_payToBuyer {record : EscrowRecord} {u : Unit} :
    (payToBuyer record : EscrowTx host Unit).Yields before u after ↔
      ∃ ledger, Pays host record.token (buyerPayments record) before.state.ledger ledger ∧
        after = { state := { before.state with ledger },
                  log := before.log ++ paymentEvents host record.token (buyerPayments record) } := by
  simp [payToBuyer, buyerPayments, Pays, paymentEvents]

@[simp] theorem yields_payToSeller {record : EscrowRecord} {sellerAmount : I128} :
    (payToSeller record : EscrowTx host I128).Yields before sellerAmount after ↔
      ∃ config fee, before.state.storage.feeConfig = some config ∧
        settlementFee record.amount config.feeBps = some fee ∧
        sellerAmount.toInt = record.amount.toInt - fee.toInt ∧
        ∃ ledger, Pays host record.token (sellerPayments config record fee sellerAmount)
            before.state.ledger ledger ∧
          after = { state := { before.state with ledger },
                    log := before.log ++ paymentEvents host record.token
                      (sellerPayments config record fee sellerAmount) } := by
  simp only [payToSeller, yields_bind, yields_storage, yields_orTrap, yields_pure, yields_performIf,
    yields_transfer, MachineInt.checkedSub_eq_some]
  constructor
  · intro done
    obtain ⟨_, _, ⟨rfl, rfl⟩, config, _, ⟨configured, rfl⟩, fee, _, ⟨charged, rfl⟩, amount, _,
      ⟨difference, rfl⟩, _, middle, feePaid, _, _, ⟨ledger, sellerPaid, rfl⟩, rfl, rfl⟩ := done
    refine ⟨config, fee, configured, charged, difference, ledger, ?_⟩
    rcases feePaid with ⟨positive, feeLedger, feePaid, rfl⟩ | ⟨zero, rfl⟩
    · simp [sellerPayments, positive, Pays, paymentEvents, feePaid, sellerPaid]
    · simp [sellerPayments, zero, Pays, paymentEvents, sellerPaid]
  · intro done
    obtain ⟨config, fee, configured, charged, difference, ledger, paid, rfl⟩ := done
    refine ⟨_, _, ⟨rfl, rfl⟩, config, _, ⟨configured, rfl⟩, fee, _, ⟨charged, rfl⟩, _, _,
      ⟨difference, rfl⟩, ?_⟩
    by_cases positive : 0 < fee.toInt
    · simp only [sellerPayments, positive, if_true, List.cons_append, List.nil_append, Pays] at paid
      obtain ⟨feeLedger, feePaid, _, sellerPaid, rfl⟩ := paid
      exact ⟨(), _, .inl ⟨positive, feeLedger, feePaid, rfl⟩, (), _, ⟨_, sellerPaid, rfl⟩, rfl,
        by simp [sellerPayments, positive, paymentEvents]⟩
    · simp only [sellerPayments, positive, if_false, List.nil_append, Pays] at paid
      obtain ⟨_, sellerPaid, rfl⟩ := paid
      exact ⟨(), _, .inr ⟨positive, rfl⟩, (), _, ⟨_, sellerPaid, rfl⟩, rfl,
        by simp [sellerPayments, positive, paymentEvents]⟩

theorem yields_settle {escrowId : U64} {record : EscrowRecord} {releaseToSeller : Bool} {u : Unit} :
    (settle escrowId record releaseToSeller : EscrowTx host Unit).Yields before u after ↔
      (releaseToSeller = true ∧ ∃ sellerAmount middle,
        (payToSeller record : EscrowTx host I128).Yields before sellerAmount middle ∧
          (setStatus escrowId record .released : EscrowTx host Unit).Yields middle () after) ∨
      (releaseToSeller = false ∧ ∃ middle,
        (payToBuyer record : EscrowTx host Unit).Yields before () middle ∧
          (setStatus escrowId record .refunded : EscrowTx host Unit).Yields middle () after) := by
  cases releaseToSeller <;> simp [settle]

theorem validateReleaseStatus_ok {record : EscrowRecord} {u : Unit} :
    validateReleaseStatus record = .ok u ↔ record.status = .funded := by
  unfold validateReleaseStatus
  cases record.status <;> simp

theorem validateRefundCaller_ok {env : Env} {s : Storage} {record : EscrowRecord}
    {caller : Address} {u : Unit} : validateRefundCaller env s record caller = .ok u ↔
      caller = record.seller ∨ isAdmin s caller ∨
        (caller = record.buyer ∧ record.timeoutLedger.toInt ≤ env.sequence.toInt) := by
  simp only [validateRefundCaller]
  split
  · rename_i anyTime
    rcases anyTime with seller | admin
    · simp [seller]
    · simp [admin]
  · split <;> simp_all

theorem uniqueArbiters_eq_some {unique arbiters copied : List Address} (distinct : unique.Nodup) :
    uniqueArbiters unique arbiters = some copied ↔
      (unique ++ arbiters).Nodup ∧ copied = unique ++ arbiters := by
  induction arbiters generalizing unique with
  | nil => simp [uniqueArbiters, distinct, eq_comm]
  | cons arbiter rest ih =>
    simp only [uniqueArbiters]
    split
    · rename_i repeated
      have clash : ¬ (unique ++ arbiter :: rest).Nodup := by
        intro all
        exact (List.nodup_append.mp all).2.2 arbiter repeated arbiter (by simp) rfl
      simp [clash]
    · rename_i new
      have extended : (unique ++ [arbiter]).Nodup := by
        simp only [List.nodup_append, distinct, List.nodup_singleton, List.mem_singleton, true_and]
        rintro address member _ rfl rfl
        exact new member
      simpa using ih extended

theorem isAdmin_initialized {s : Storage} {address : Address} (admin : isAdmin s address = true) :
    s.admin.isSome := by
  unfold isAdmin at admin
  split at admin <;> simp_all

@[simp] theorem initializeContract_yields {admin treasury : Address} {feeBps : U32}
    {minAmount maxAmount : I128} {answer : Bool} :
    (initializeContract admin feeBps treasury minAmount maxAmount : EscrowTx host Bool).Yields
        before answer after ↔
      before.state.storage.admin = none ∧ feeBps.toInt ≤ 1000 ∧
        (0 < minAmount.toInt ∧ minAmount.toInt ≤ maxAmount.toInt) ∧
        after = { before with state := { before.state with storage := { before.state.storage with
          admin := some admin
          lastEscrowId := some (.lit 0)
          feeConfig := some { feeBps, treasury }
          amountLimits := some { minAmount, maxAmount } } } } ∧ answer = true := by
  simp [initializeContract]

@[simp] theorem setLimits_yields {env : Env} {admin : Address} {minAmount maxAmount : I128}
    {answer : Bool} :
    (setLimits env admin minAmount maxAmount : EscrowTx host Bool).Yields before answer after ↔
      admin ∈ env.signers ∧ isAdmin before.state.storage admin = true ∧
        (0 < minAmount.toInt ∧ minAmount.toInt ≤ maxAmount.toInt) ∧
        after = { before with state := { before.state with storage := { before.state.storage with
          amountLimits := some { minAmount, maxAmount } } } } ∧ answer = true := by
  simp [setLimits]

@[simp] theorem setQuorumConfig_yields {env : Env} {admin : Address} {arbiters : List Address}
    {threshold : U32} {answer : Bool} :
    (setQuorumConfig env admin arbiters threshold : EscrowTx host Bool).Yields before answer after ↔
      admin ∈ env.signers ∧ isAdmin before.state.storage admin = true ∧
        (threshold.toInt ≠ 0 ∧ threshold.toInt ≤ arbiters.length) ∧ arbiters.Nodup ∧
        after = { before with state := { before.state with storage := { before.state.storage with
          quorumConfig := some { arbiters, threshold } } } } ∧ answer = true := by
  simp [setQuorumConfig, uniqueArbiters_eq_some List.nodup_nil, and_assoc]

@[simp] theorem voteDispute_yields {env : Env} {escrowId : U64} {arbiter : Address}
    {releaseToSeller answer : Bool} :
    (voteDispute env escrowId arbiter releaseToSeller : EscrowTx host Bool).Yields
        before answer after ↔
      arbiter ∈ env.signers ∧ ∃ config, before.state.storage.quorumConfig = some config ∧
        arbiter ∈ config.arbiters ∧ ∃ record, before.state.storage.escrow escrowId = some record ∧
          record.status = .disputed ∧
          (¬ ∃ vote ∈ getDisputeVotes before.state.storage escrowId, vote.arbiter = arbiter) ∧
          after = { before with state := { before.state with storage := { before.state.storage with
            disputeVotes := Function.update before.state.storage.disputeVotes escrowId
              (some (getDisputeVotes before.state.storage escrowId ++
                [{ arbiter, releaseToSeller }])) } } } ∧ answer = true := by
  simp [voteDispute]

@[simp] theorem settleDispute_yields {escrowId : U64} {record : EscrowRecord}
    {releaseToSeller answer : Bool} {caller : Address} :
    (settleDispute escrowId record releaseToSeller caller : EscrowTx host Bool).Yields
        before answer after ↔
      ∃ u middle, (settle escrowId record releaseToSeller : EscrowTx host Unit).Yields before u middle ∧
        after = { middle with log := middle.log ++ [.resolved escrowId releaseToSeller caller] } ∧
        answer = true := by
  simp [settleDispute]

@[simp] theorem resolveDisputeQuorum_yields {env : Env} {escrowId : U64} {caller : Address}
    {answer : Bool} :
    (resolveDisputeQuorum env escrowId caller : EscrowTx host Bool).Yields before answer after ↔
      caller ∈ env.signers ∧ ∃ record, before.state.storage.escrow escrowId = some record ∧
        record.status = .disputed ∧ ∃ config, before.state.storage.quorumConfig = some config ∧
          ∃ side, quorumOutcome config (getDisputeVotes before.state.storage escrowId) = .ok side ∧
            (settleDispute escrowId record side caller : EscrowTx host Bool).Yields
              before answer after := by
  simp [resolveDisputeQuorum, -settleDispute_yields]

@[simp] theorem updateFee_yields {env : Env} {admin : Address} {newFeeBps : U32} {answer : Bool} :
    (updateFee env admin newFeeBps : EscrowTx host Bool).Yields before answer after ↔
      admin ∈ env.signers ∧ isAdmin before.state.storage admin = true ∧ newFeeBps.toInt ≤ 1000 ∧
        ∃ config, before.state.storage.feeConfig = some config ∧
          after = { before with state := { before.state with storage := { before.state.storage with
            feeConfig := some { config with feeBps := newFeeBps } } } } ∧ answer = true := by
  simp [updateFee]

@[simp] theorem addToken_yields {env : Env} {admin tokenAddress : Address} {answer : Bool} :
    (addToken env admin tokenAddress : EscrowTx host Bool).Yields before answer after ↔
      admin ∈ env.signers ∧ isAdmin before.state.storage admin = true ∧
        ((isTokenAllowed before.state.storage tokenAddress = false ∧
          after = { before with state := { before.state with storage := { before.state.storage with
            tokenWhitelist := some (listTokens before.state.storage ++ [tokenAddress])
            tokenEnabled := Function.update before.state.storage.tokenEnabled tokenAddress
              (some true) } } }) ∨
          (isTokenAllowed before.state.storage tokenAddress = true ∧ after = before)) ∧
        answer = true := by
  simp [addToken]

@[simp] theorem removeToken_yields {env : Env} {admin tokenAddress : Address} {answer : Bool} :
    (removeToken env admin tokenAddress : EscrowTx host Bool).Yields before answer after ↔
      admin ∈ env.signers ∧ isAdmin before.state.storage admin = true ∧
        after = { before with state := { before.state with storage := { before.state.storage with
          tokenWhitelist :=
            if tokenAddress ∈ listTokens before.state.storage then
              some ((listTokens before.state.storage).erase tokenAddress)
            else before.state.storage.tokenWhitelist
          tokenEnabled := Function.update before.state.storage.tokenEnabled tokenAddress
            (some false) } } } ∧ answer = true := by
  simp [removeToken]

@[simp] theorem deposit_yields {env : Env} {buyer seller token : Address} {amount : I128}
    {orderId : BytesN 32} {timeoutLedgers : U32} {lastId : U64} :
    (deposit env buyer seller token amount orderId timeoutLedgers : EscrowTx host U64).Yields
        before lastId after ↔
      buyer ∈ env.signers ∧
        (¬ ∃ pauseState ∈ before.state.storage.pauseState, pauseState.createPaused = true) ∧
        isTokenAllowed before.state.storage token = true ∧ 0 < amount.toInt ∧
        ∃ limits, before.state.storage.amountLimits = some limits ∧
          limits.minAmount.toInt ≤ amount.toInt ∧ amount.toInt ≤ limits.maxAmount.toInt ∧
          ∃ ledger, host.transfer before.state.ledger token buyer host.currentContract amount =
              some ledger ∧
            lastId.toInt =
              (before.state.storage.lastEscrowId.getD (.lit 0)).toInt + 1 ∧
            ∃ timeoutLedger : U32,
              timeoutLedger.toInt = env.sequence.toInt + timeoutLedgers.toInt ∧
              after =
                { state := { ledger, storage := { before.state.storage with
                    lastEscrowId := some lastId
                    escrow := Function.update before.state.storage.escrow lastId (some
                      { escrowId := lastId, buyer, seller, token, amount, status := .funded,
                        orderId, createdAt := env.timestamp, timeoutLedger }) } },
                  log := before.log ++ [.transfer token buyer host.currentContract amount,
                    .created lastId buyer seller token amount orderId timeoutLedger] } := by
  simp [deposit]

@[simp] theorem release_yields {env : Env} {escrowId : U64} {caller : Address} {answer : Bool} :
    (release env escrowId caller : EscrowTx host Bool).Yields before answer after ↔
      caller ∈ env.signers ∧ ∃ record, before.state.storage.escrow escrowId = some record ∧
        (caller ≠ record.buyer → isAdmin before.state.storage caller = true) ∧
        record.status = .funded ∧ ∃ sellerAmount middle,
          (payToSeller record : EscrowTx host I128).Yields before sellerAmount middle ∧
          after = ⟨{ middle.state with storage := { middle.state.storage with
              escrow := Function.update middle.state.storage.escrow escrowId
                (some { record with status := .released }) } },
            middle.log ++ [.released escrowId record.seller sellerAmount caller]⟩ ∧
          answer = true := by
  simp [release, validateReleaseStatus_ok, -yields_payToSeller]

@[simp] theorem refund_yields {env : Env} {escrowId : U64} {caller : Address} {answer : Bool} :
    (refund env escrowId caller : EscrowTx host Bool).Yields before answer after ↔
      caller ∈ env.signers ∧ ∃ record, before.state.storage.escrow escrowId = some record ∧
        record.status = .funded ∧
        (caller = record.seller ∨ isAdmin before.state.storage caller = true ∨
          (caller = record.buyer ∧ record.timeoutLedger.toInt ≤ env.sequence.toInt)) ∧
        ∃ u middle, (payToBuyer record : EscrowTx host Unit).Yields before u middle ∧
          after = ⟨{ middle.state with storage := { middle.state.storage with
              escrow := Function.update middle.state.storage.escrow escrowId
                (some { record with status := .refunded }) } },
            middle.log ++ [.refunded escrowId record.buyer record.amount caller]⟩ ∧
          answer = true := by
  -- The source tests for Refunded first, only to report it by its own error.
  have once (status : EscrowStatus) (rest : Prop) :
      (¬ status = .refunded ∧ status = .funded ∧ rest) ↔ (status = .funded ∧ rest) := by
    cases status <;> simp
  simp [refund, validateRefundCaller_ok, once, -yields_payToBuyer]

@[simp] theorem dispute_yields {env : Env} {escrowId : U64} {caller : Address} {answer : Bool} :
    (dispute env escrowId caller : EscrowTx host Bool).Yields before answer after ↔
      caller ∈ env.signers ∧ ∃ record, before.state.storage.escrow escrowId = some record ∧
        (caller ≠ record.buyer → caller = record.seller) ∧ record.status = .funded ∧
        after = ⟨{ before.state with storage := { before.state.storage with
            escrow := Function.update before.state.storage.escrow escrowId
              (some { record with status := .disputed }) } },
          before.log ++ [.disputed escrowId caller]⟩ ∧ answer = true := by
  simp [dispute]

@[simp] theorem resolveDispute_yields {env : Env} {escrowId : U64} {caller : Address}
    {releaseToSeller answer : Bool} :
    (resolveDispute env escrowId caller releaseToSeller : EscrowTx host Bool).Yields
        before answer after ↔
      caller ∈ env.signers ∧ isAdmin before.state.storage caller = true ∧
        ∃ record, before.state.storage.escrow escrowId = some record ∧
          record.status = .disputed ∧
          (settleDispute escrowId record releaseToSeller caller : EscrowTx host Bool).Yields
            before answer after := by
  simp [resolveDispute, -settleDispute_yields]

@[simp] theorem proposeAdmin_yields {env : Env} {currentAdmin newAdmin : Address} {answer : Bool} :
    (proposeAdmin env currentAdmin newAdmin : EscrowTx host Bool).Yields before answer after ↔
      currentAdmin ∈ env.signers ∧ before.state.storage.admin = some currentAdmin ∧
        after = ⟨{ before.state with storage := { before.state.storage with
            pendingAdmin := some newAdmin } },
          before.log ++ [.adminProposed currentAdmin newAdmin]⟩ ∧ answer = true := by
  simp [proposeAdmin]

@[simp] theorem acceptAdmin_yields {env : Env} {newAdmin : Address} {answer : Bool} :
    (acceptAdmin env newAdmin : EscrowTx host Bool).Yields before answer after ↔
      newAdmin ∈ env.signers ∧ before.state.storage.pendingAdmin = some newAdmin ∧
        after = ⟨{ before.state with storage := { before.state.storage with
            adminList :=
              if newAdmin ∈ before.state.storage.adminList.getD [] then
                some ((before.state.storage.adminList.getD []).erase newAdmin)
              else before.state.storage.adminList
            admin := some newAdmin
            pendingAdmin := none } },
          before.log ++ [.adminAccepted newAdmin]⟩ ∧ answer = true := by
  simp [acceptAdmin]

@[simp] theorem cancelAdminTransfer_yields {env : Env} {currentAdmin : Address} {answer : Bool} :
    (cancelAdminTransfer env currentAdmin : EscrowTx host Bool).Yields before answer after ↔
      currentAdmin ∈ env.signers ∧ before.state.storage.admin = some currentAdmin ∧
        before.state.storage.pendingAdmin ≠ none ∧
        after = ⟨{ before.state with storage := { before.state.storage with
            pendingAdmin := none } },
          before.log ++ [.adminTransferCancelled currentAdmin]⟩ ∧ answer = true := by
  simp [cancelAdminTransfer]

@[simp] theorem addCoAdmin_yields {env : Env} {admin newCoAdmin : Address} {answer : Bool} :
    (addCoAdmin env admin newCoAdmin : EscrowTx host Bool).Yields before answer after ↔
      admin ∈ env.signers ∧ before.state.storage.admin = some admin ∧ newCoAdmin ≠ admin ∧
        newCoAdmin ∉ before.state.storage.adminList.getD [] ∧
        after = { before with state := { before.state with storage := { before.state.storage with
          adminList := some (before.state.storage.adminList.getD [] ++ [newCoAdmin]) } } } ∧
        answer = true := by
  simp [addCoAdmin]

@[simp] theorem removeCoAdmin_yields {env : Env} {admin coAdmin : Address} {answer : Bool} :
    (removeCoAdmin env admin coAdmin : EscrowTx host Bool).Yields before answer after ↔
      admin ∈ env.signers ∧ before.state.storage.admin = some admin ∧
        coAdmin ∈ before.state.storage.adminList.getD [] ∧
        after = { before with state := { before.state with storage := { before.state.storage with
          adminList := some ((before.state.storage.adminList.getD []).erase coAdmin) } } } ∧
        answer = true := by
  simp [removeCoAdmin]

@[simp] theorem setCreatePaused_yields {env : Env} {admin : Address} {paused answer : Bool} :
    (setCreatePaused env admin paused : EscrowTx host Bool).Yields before answer after ↔
      admin ∈ env.signers ∧ isAdmin before.state.storage admin = true ∧
        after = ⟨{ before.state with storage := { before.state.storage with
            pauseState := some ⟨paused, admin, env.sequence⟩ } },
          before.log ++ [.pauseChanged paused admin env.sequence]⟩ ∧ answer = true := by
  simp [setCreatePaused]

end Delego.Escrow
