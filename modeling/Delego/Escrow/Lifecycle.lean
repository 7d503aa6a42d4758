import Delego.Escrow.Invariant
import Mathlib.Logic.Relation

set_option autoImplicit false

namespace Delego.Escrow

open Shared Soroban

variable {host : Host}

inductive StatusStep : EscrowStatus → EscrowStatus → Prop
  | release : StatusStep .funded .released
  | refund : StatusStep .funded .refunded
  | dispute : StatusStep .funded .disputed
  | resolveRelease : StatusStep .disputed .released
  | resolveRefund : StatusStep .disputed .refunded

theorem StatusStep.source_live {status status' : EscrowStatus} (legal : StatusStep status status') :
    status.live = true := by
  cases legal <;> rfl

theorem StatusStep.to_released {status : EscrowStatus} (live : status.live = true) :
    StatusStep status .released := by
  cases status with
  | funded => exact .release
  | disputed => exact .resolveRelease
  | released | refunded => cases live

theorem StatusStep.to_refunded {status : EscrowStatus} (live : status.live = true) :
    StatusStep status .refunded := by
  cases status with
  | funded => exact .refund
  | disputed => exact .resolveRefund
  | released | refunded => cases live

def depositedId (receipt : EscrowReceipt host) : Option U64 :=
  match accepted receipt with
  | some (⟨_, .deposit ..⟩, .id escrowId, _) => some escrowId
  | _ => none

def lastId (s : Storage) : Int := (s.lastEscrowId.getD (.lit 0)).toInt

structure Payout where
  token : Address
  target : Address
  amount : I128
  deriving DecidableEq

def outgoing (host : Host) : EscrowEvent → Option Payout
  | .transfer token source target amount =>
    if source = host.currentContract then some { token, target, amount } else none
  | _ => none

def paidFor (escrowId : U64) (receipt : EscrowReceipt host) : List Payout :=
  match accepted receipt with
  | some (invocation, _, log) =>
    if invocation.call.escrowId? = some escrowId then log.filterMap (outgoing host) else []
  | none => []

def paidOut (history : List (EscrowReceipt host)) (escrowId : U64) : List Payout :=
  history.flatMap (paidFor escrowId)

def payoutsOf (token : Address) (payments : List Payment) : List Payout :=
  payments.map fun payment => { token, target := payment.target, amount := payment.amount }

inductive Settled (history : List (EscrowReceipt host)) (escrowId : U64) (record : EscrowRecord) :
    Prop
  | held (live : record.status.live = true) (unpaid : paidOut history escrowId = [])
  | refunded (status : record.status = .refunded)
      (whole : paidOut history escrowId = payoutsOf record.token (buyerPayments record))
  | released {receipt : EscrowReceipt host} {held : EscrowRecord} {config : FeeConfig}
      {fee sellerAmount : I128} (status : record.status = .released) (member : receipt ∈ history)
      (before : receipt.before.storage.escrow escrowId = some held)
      (live : held.status.live = true)
      (after : receipt.after.storage.escrow escrowId = some record)
      (configured : receipt.before.storage.feeConfig = some config)
      (charged : settlementFee record.amount config.feeBps = some fee)
      (bounds : 0 ≤ fee.toInt ∧ fee.toInt ≤ record.amount.toInt)
      (split : fee.toInt + sellerAmount.toInt = record.amount.toInt)
      (parts : paidOut history escrowId =
        payoutsOf record.token (sellerPayments config record fee sellerAmount))

structure OpenedBy (receipt : EscrowReceipt host) (escrowId : U64) (record : EscrowRecord) : Prop where
  call : ∃ env timeoutLedgers, receipt.input = .call ⟨env, .deposit record.buyer record.seller
    record.token record.amount record.orderId timeoutLedgers⟩ ∧
    record.createdAt = env.timestamp ∧
    record.timeoutLedger.toInt = env.sequence.toInt + timeoutLedgers.toInt
  fresh : receipt.before.storage.escrow escrowId = none
  stored : receipt.after.storage.escrow escrowId = some record
  numbered : record.escrowId = escrowId
  funded : record.status = .funded

structure LifeCycle (history : List (EscrowReceipt host)) (s : Storage) : Prop where
  numbered : ∀ escrowId, (s.escrow escrowId).isSome = true ↔
    1 ≤ escrowId.toInt ∧ escrowId.toInt ≤ lastId s
  deposits : ((history.filterMap depositedId).map MachineInt.toInt).reverse =
    (List.range (lastId s).toNat).map fun index => (index : Int) + 1
  opened : ∀ receipt ∈ history, ∀ escrowId, depositedId receipt = some escrowId →
    ∃ record, OpenedBy receipt escrowId record ∧
      ∃ status, s.escrow escrowId = some { record with status }
  steps : ∀ receipt ∈ history, ∀ escrowId record,
    receipt.before.storage.escrow escrowId = some record →
      ∃ status, receipt.after.storage.escrow escrowId = some { record with status } ∧
        (status = record.status ∨ StatusStep record.status status)
  settled : ∀ escrowId record, s.escrow escrowId = some record → Settled history escrowId record
  untouched : ∀ escrowId, s.escrow escrowId = none → paidOut history escrowId = []

theorem deployed_lifeCycle (ledger : host.Ledger) :
    LifeCycle ([] : List (EscrowReceipt host)) (deployed ledger).storage where
  numbered := by
    intro escrowId
    simp only [deployed, Storage.empty, lastId, Option.isSome_none, Option.getD_none,
      MachineInt.lit_toInt]
    constructor
    · simp
    · omega
  deposits := rfl
  opened := by simp
  steps := by simp
  settled := by simp [deployed, Storage.empty]
  untouched _ _ := rfl

theorem paidOut_cons (receipt : EscrowReceipt host) (past : List (EscrowReceipt host))
    (escrowId : U64) : paidOut (receipt :: past) escrowId =
      paidFor escrowId receipt ++ paidOut past escrowId := rfl

theorem Settled.extend {past : List (EscrowReceipt host)} {receipt : EscrowReceipt host}
    {escrowId : U64} {record : EscrowRecord} (settled : Settled past escrowId record)
    (silent : paidFor escrowId receipt = []) : Settled (receipt :: past) escrowId record := by
  have same : paidOut (receipt :: past) escrowId = paidOut past escrowId := by
    rw [paidOut_cons, silent, List.nil_append]
  cases settled with
  | held live unpaid => exact .held live (same.trans unpaid)
  | refunded status whole => exact .refunded status (same.trans whole)
  | released status member before live after configured charged bounds split parts =>
    exact .released status (List.mem_cons_of_mem _ member) before live after configured charged
      bounds split (same.trans parts)

theorem Settled.unpaid {past : List (EscrowReceipt host)} {escrowId : U64} {record : EscrowRecord}
    (settled : Settled past escrowId record) (live : record.status.live = true) :
    paidOut past escrowId = [] := by
  cases settled with
  | held _ unpaid => exact unpaid
  | refunded status => simp [status, EscrowStatus.live] at live
  | released status => simp [status, EscrowStatus.live] at live

theorem lifeCycle_unchanged {past : List (EscrowReceipt host)} {receipt : EscrowReceipt host}
    (cycle : LifeCycle past receipt.before.storage)
    (escrows : receipt.after.storage.escrow = receipt.before.storage.escrow)
    (ids : lastId receipt.after.storage = lastId receipt.before.storage)
    (noDeposit : depositedId receipt = none) (unpaid : ∀ escrowId, paidFor escrowId receipt = []) :
    LifeCycle (receipt :: past) receipt.after.storage where
  numbered := by simpa [escrows, ids] using cycle.numbered
  deposits := by simpa [noDeposit, ids] using cycle.deposits
  opened := by simpa [noDeposit, escrows] using cycle.opened
  steps := by
    intro seen member escrowId record found
    rcases List.mem_cons.mp member with rfl | member
    · exact ⟨record.status, by rw [escrows, found], .inl rfl⟩
    · exact cycle.steps seen member escrowId record found
  settled escrowId record found :=
    (cycle.settled escrowId record (escrows ▸ found)).extend (unpaid escrowId)
  untouched escrowId absent := by
    rw [paidOut_cons, unpaid, cycle.untouched escrowId (escrows ▸ absent)]
    rfl

theorem lifeCycle_opened {past : List (EscrowReceipt host)} {receipt : EscrowReceipt host}
    {opened : U64} {record : EscrowRecord} (cycle : LifeCycle past receipt.before.storage)
    (next : opened.toInt = lastId receipt.before.storage + 1)
    (ids : lastId receipt.after.storage = opened.toInt)
    (deposit : depositedId receipt = some opened)
    (unpaid : ∀ escrowId, paidFor escrowId receipt = [])
    (escrows : receipt.after.storage.escrow =
      Function.update receipt.before.storage.escrow opened (some record))
    (by_call : receipt.before.storage.escrow opened = none → OpenedBy receipt opened record) :
    LifeCycle (receipt :: past) receipt.after.storage := by
  have start : 0 ≤ lastId receipt.before.storage := (receipt.before.storage.lastEscrowId.getD _).lower
  have fresh : receipt.before.storage.escrow opened = none := by
    rw [← Option.not_isSome_iff_eq_none, cycle.numbered]
    omega
  have other (escrowId : U64) (found : (receipt.before.storage.escrow escrowId).isSome = true) :
      receipt.after.storage.escrow escrowId = receipt.before.storage.escrow escrowId := by
    rw [escrows, Function.update_of_ne]
    intro same
    subst same
    simp [fresh] at found
  constructor
  case numbered =>
    intro escrowId
    by_cases same : escrowId = opened
    · subst same
      have positive : 1 ≤ escrowId.toInt := by omega
      simp [escrows, ids, positive]
    · have distinct : escrowId.toInt ≠ opened.toInt := fun equal => same (MachineInt.ext equal)
      rw [escrows, Function.update_of_ne same, cycle.numbered, ids]
      omega
  case deposits =>
    have count : (lastId receipt.after.storage).toNat = (lastId receipt.before.storage).toNat + 1 := by
      omega
    simp [deposit, cycle.deposits, count, List.range_succ, next, start]
  case opened =>
    intro seen member escrowId given
    rcases List.mem_cons.mp member with rfl | member
    · cases deposit.symm.trans given
      exact ⟨record, by_call fresh, record.status, by simp [escrows]⟩
    · obtain ⟨created, opening, status, stored⟩ := cycle.opened seen member escrowId given
      exact ⟨created, opening, status, by rw [other _ (by simp [stored]), stored]⟩
  case steps =>
    intro seen member escrowId held found
    rcases List.mem_cons.mp member with rfl | member
    · exact ⟨held.status, by rw [other _ (by simp [found]), found], .inl rfl⟩
    · exact cycle.steps seen member escrowId held found
  case settled =>
    intro escrowId held found
    by_cases same : escrowId = opened
    · subst same
      have written : held = record := by simpa [escrows, eq_comm] using found
      refine .held (by simp [written, (by_call fresh).funded, EscrowStatus.live]) ?_
      rw [paidOut_cons, unpaid, cycle.untouched _ fresh]
      rfl
    · rw [escrows, Function.update_of_ne same] at found
      exact (cycle.settled escrowId held found).extend (unpaid escrowId)
  case untouched =>
    intro escrowId absent
    have before : receipt.before.storage.escrow escrowId = none := by
      by_contra present
      rw [other _ (Option.isSome_iff_ne_none.mpr present)] at absent
      exact present absent
    rw [paidOut_cons, unpaid, cycle.untouched escrowId before]
    rfl

theorem lifeCycle_moved {past : List (EscrowReceipt host)} {receipt : EscrowReceipt host}
    {moved : U64} {record : EscrowRecord} {status : EscrowStatus}
    (cycle : LifeCycle past receipt.before.storage)
    (found : receipt.before.storage.escrow moved = some record)
    (legal : StatusStep record.status status)
    (escrows : receipt.after.storage.escrow =
      Function.update receipt.before.storage.escrow moved (some { record with status }))
    (ids : lastId receipt.after.storage = lastId receipt.before.storage)
    (noDeposit : depositedId receipt = none)
    (others : ∀ escrowId, escrowId ≠ moved → paidFor escrowId receipt = [])
    (settled : paidOut past moved = [] → Settled (receipt :: past) moved { record with status }) :
    LifeCycle (receipt :: past) receipt.after.storage := by
  have kept (escrowId : U64) (held : EscrowRecord)
      (before : receipt.before.storage.escrow escrowId = some held) :
      ∃ status, receipt.after.storage.escrow escrowId = some { held with status } ∧
        (status = held.status ∨ StatusStep held.status status) := by
    by_cases same : escrowId = moved
    · subst same
      cases found.symm.trans before
      exact ⟨status, by simp [escrows], .inr legal⟩
    · exact ⟨held.status, by rw [escrows, Function.update_of_ne same, before], .inl rfl⟩
  constructor
  case numbered =>
    intro escrowId
    by_cases same : escrowId = moved
    · subst same
      rw [ids, ← cycle.numbered, found, escrows]
      simp
    · rw [escrows, Function.update_of_ne same, ids]
      exact cycle.numbered escrowId
  case deposits =>
    simpa [noDeposit, ids] using cycle.deposits
  case opened =>
    intro seen member escrowId given
    rcases List.mem_cons.mp member with rfl | member
    · simp [noDeposit] at given
    · obtain ⟨created, opening, _, stored⟩ := cycle.opened seen member escrowId given
      obtain ⟨later, stored, _⟩ := kept _ _ stored
      exact ⟨created, opening, later, stored⟩
  case steps =>
    intro seen member escrowId held before
    rcases List.mem_cons.mp member with rfl | member
    · exact kept escrowId held before
    · exact cycle.steps seen member escrowId held before
  case settled =>
    intro escrowId held after
    by_cases same : escrowId = moved
    · subst same
      have written : held = { record with status } := by simpa [escrows, eq_comm] using after
      subst written
      exact settled ((cycle.settled _ _ found).unpaid legal.source_live)
    · rw [escrows, Function.update_of_ne same] at after
      exact (cycle.settled escrowId held after).extend (others escrowId same)
  case untouched =>
    intro escrowId absent
    have distinct : escrowId ≠ moved := by
      intro same
      subst same
      simp [escrows] at absent
    rw [escrows, Function.update_of_ne distinct] at absent
    rw [paidOut_cons, others escrowId distinct, cycle.untouched escrowId absent]
    rfl

@[simp] theorem paidFor_accepted {before after : Chain host} {env : Env} {call : Call} {value : Value}
    {log : List EscrowEvent} {escrowId : U64} :
    paidFor escrowId ⟨before, .call ⟨env, call⟩, .ok (value, log), after⟩ =
      if call.escrowId? = some escrowId then log.filterMap (outgoing host) else [] := rfl

theorem outgoing_payments {token : Address} {payments : List Payment} {ending : EscrowEvent}
    (closing : ending.isTransfer = false) :
    (paymentEvents host token payments ++ [ending]).filterMap (outgoing host) =
      payoutsOf token payments := by
  have last : outgoing host ending = none := by
    cases ending <;> simp_all [outgoing, EscrowEvent.isTransfer]
  induction payments with
  | nil => simp [paymentEvents, payoutsOf, last]
  | cons payment rest ih =>
    simp only [paymentEvents, payoutsOf, List.map_cons, List.cons_append] at ih ⊢
    simp [outgoing, ih]

theorem flag_depositedId {before after : Chain host} {invocation : Invocation Call} {answer : Bool}
    {log : List EscrowEvent} :
    depositedId ⟨before, .call invocation, .ok (.flag answer, log), after⟩ = none := by
  simp [depositedId, accepted]

theorem receipt_lifeCycle {past : List (EscrowReceipt host)} {receipt : EscrowReceipt host}
    (observed : Observed host receipt) (formed : WellFormed receipt.before.storage)
    (cycle : LifeCycle past receipt.before.storage) :
    LifeCycle (receipt :: past) receipt.after.storage := by
  cases observed with
  | failed | elsewhere => exact lifeCycle_unchanged cycle rfl rfl rfl fun _ => rfl
  | accepted transition =>
    cases transition with
    | initialized fresh =>
      refine lifeCycle_unchanged cycle rfl ?_ rfl fun _ => rfl
      have unnumbered := (formed.blank fresh).2
      simp only [lastId] at unnumbered ⊢
      simp [unnumbered]
    | configured _ escrows ids _ _ _ noId =>
      refine lifeCycle_unchanged cycle escrows ?_ flag_depositedId ?_
      · simp only [lastId, ids]
      · simp [noId]
    | voted => exact lifeCycle_unchanged cycle rfl rfl rfl fun _ => by simp
    | deposited _ _ _ _ _ _ next timeout =>
      refine lifeCycle_opened cycle next rfl rfl (fun _ => rfl) rfl fun fresh => ?_
      exact ⟨⟨_, _, rfl, rfl, timeout⟩, fresh, by simp, rfl, rfl⟩
    | disputed _ found _ funded =>
      refine lifeCycle_moved cycle found (funded ▸ .dispute) rfl rfl rfl ?_ fun unpaid => ?_
      · simp [outgoing]
      · exact .held rfl (by simp [paidOut_cons, unpaid, outgoing])
    | @released _ _ _ record _ fee sellerAmount _ _ found grounds configured charged difference _ closing =>
      have amount := formed.positive _ _ found
      have bounds := settlementFee_bounds (Int.le_of_lt amount) (formed.feeBound _ configured) charged
      refine lifeCycle_moved cycle found (.to_released grounds.live) rfl rfl flag_depositedId ?_
        fun unpaid => ?_
      · intro escrowId other
        simp [grounds.names, Ne.symm other]
      · have split : fee.toInt + sellerAmount.toInt = record.amount.toInt := by omega
        refine .released rfl (List.mem_cons_self ..) found grounds.live ?_ configured charged bounds
          split ?_
        · simp
        · rw [paidOut_cons, unpaid, paidFor_accepted, if_pos grounds.names, List.append_nil]
          exact outgoing_payments closing
    | refunded found grounds _ closing =>
      refine lifeCycle_moved cycle found (.to_refunded grounds.live) rfl rfl flag_depositedId ?_
        fun unpaid => ?_
      · intro escrowId other
        simp [grounds.names, Ne.symm other]
      · refine .refunded rfl ?_
        rw [paidOut_cons, unpaid, paidFor_accepted, if_pos grounds.names, List.append_nil]
        exact outgoing_payments closing

theorem StatusStep.closed {status status' : EscrowStatus}
    (path : Relation.ReflTransGen StatusStep status status') (closed : status.live = false) :
    status' = status := by
  induction path with
  | refl => rfl
  | tail _ last ih =>
    subst ih
    cases closed.symm.trans last.source_live

theorem run_status {chain : Chain host} (inputs : List (Input host)) {escrowId : U64}
    {record : EscrowRecord} (found : chain.storage.escrow escrowId = some record)
    (steps : ∀ receipt ∈ Run.history (step host) chain inputs, ∀ record,
      receipt.before.storage.escrow escrowId = some record →
        ∃ status, receipt.after.storage.escrow escrowId = some { record with status } ∧
          (status = record.status ∨ StatusStep record.status status)) :
    ∃ status, (Run.final (step host) chain inputs).storage.escrow escrowId =
        some { record with status } ∧ Relation.ReflTransGen StatusStep record.status status := by
  induction inputs with
  | nil => exact ⟨record.status, found, .refl⟩
  | cons input earlier ih =>
    have past := ih fun receipt member => steps receipt (List.mem_cons_of_mem _ member)
    obtain ⟨status, stored, path⟩ := past
    obtain ⟨status', stored', moved⟩ := steps _ (List.mem_cons_self ..) _ stored
    refine ⟨status', stored', ?_⟩
    rcases moved with rfl | legal
    · exact path
    · exact path.tail legal

theorem history_lifeCycle (ledger : host.Ledger) (inputs : List (Input host)) :
    LifeCycle (Run.history (step host) (deployed ledger) inputs)
      (Run.final (step host) (deployed ledger) inputs).storage := by
  suffices both : WellFormed (Run.final (step host) (deployed ledger) inputs).storage ∧
      LifeCycle (Run.history (step host) (deployed ledger) inputs)
        (Run.final (step host) (deployed ledger) inputs).storage from both.2
  apply Run.invariant (step host) (deployed ledger) fun past chain =>
    WellFormed chain.storage ∧ LifeCycle past chain.storage
  · exact ⟨empty_wellFormed, deployed_lifeCycle ledger⟩
  · intro past chain input both
    have observed := observe_observed chain input
    exact ⟨receipt_wellFormed observed both.1, receipt_lifeCycle observed both.1 both.2⟩

-- A transfer out of the contract belongs to the escrow its call names, unless it is a deposit
-- that the contract itself has signed as the buyer.
theorem receipt_unnamed {receipt : EscrowReceipt host} (observed : Observed host receipt)
    {invocation : Invocation Call} {value : Value} {log : List EscrowEvent}
    (done : accepted receipt = some (invocation, value, log))
    (foreign : host.currentContract ∉ invocation.env.signers)
    (unnamed : invocation.call.escrowId? = none) : log.filterMap (outgoing host) = [] := by
  cases observed with
  | failed | elsewhere => cases done
  | accepted transition =>
    cases done
    cases transition with
    | initialized => rfl
    | voted | disputed => cases unnamed
    | released _ grounds | refunded _ grounds => cases grounds.names.symm.trans unnamed
    | configured _ _ _ _ _ _ _ silent =>
      rw [List.filterMap_eq_nil_iff]
      intro event member
      have quiet := silent event member
      cases event <;> simp_all [outgoing, EscrowEvent.isTransfer]
    | @deposited _ buyer _ _ _ _ _ _ _ _ _ signed =>
      have outsider : buyer ≠ host.currentContract := fun same => foreign (same ▸ signed)
      simp [outgoing, outsider]

/-- Over every run, every escrow follows its life cycle, is paid out exactly once and by its
status, and never changes any other field. -/
theorem escrow_lifeCycle (host : Host) (ledger : host.Ledger) (later earlier : List (Input host)) :
    LifeCycle (Run.history (step host) (deployed ledger) (later ++ earlier))
        (Run.final (step host) (deployed ledger) (later ++ earlier)).storage ∧
      (∀ receipt ∈ Run.history (step host) (deployed ledger) (later ++ earlier),
        ∀ invocation value log, accepted receipt = some (invocation, value, log) →
          host.currentContract ∉ invocation.env.signers → invocation.call.escrowId? = none →
            log.filterMap (outgoing host) = []) ∧
      ∀ escrowId record,
        (Run.final (step host) (deployed ledger) earlier).storage.escrow escrowId = some record →
          ∃ status,
            (Run.final (step host) (deployed ledger) (later ++ earlier)).storage.escrow escrowId =
                some { record with status } ∧
              Relation.ReflTransGen StatusStep record.status status ∧
              (record.status.live = false → status = record.status) := by
  refine ⟨history_lifeCycle ledger _, ?_, ?_⟩
  · intro receipt member invocation value log
    exact receipt_unnamed (history_observed _ _ receipt member)
  · intro escrowId record found
    have cycle := history_lifeCycle ledger (later ++ earlier)
    rw [Run.history_append] at cycle
    rw [Run.final_append]
    obtain ⟨status, stored, path⟩ := run_status later found fun receipt member held =>
      cycle.steps receipt (List.mem_append_left _ member) escrowId held
    exact ⟨status, stored, path, StatusStep.closed path⟩

end Delego.Escrow
