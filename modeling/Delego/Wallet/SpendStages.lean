import Delego.Wallet.SpendMeasures

set_option autoImplicit false

namespace Delego.Wallet.SpendLimits

open Shared Shared.Text
open TxQueue (TransactionRequest Spend Job Phase Response executeTxJob settled)

def Handling.Fresh (handling : Handling) : Prop := handling.confirmed = none ∧ handling.recorded = none

def Handling.Covered (handling : Handling) (request : TransactionRequest) : Prop :=
  ∀ spend, TxQueue.spendOf request = some spend → handling.amount ≤ spend.amount

def Handling.StageOk (tables : Tables) (clock : Nat) (handling : Handling) : Prop :=
  match handling.stage with
  | .finding | .refused _ => handling.Fresh
  | .checking userId walletId => handling.Fresh ∧
    userIdOf handling.request (tables.wallet handling.request) = some userId ∧
      walletIdOf handling.request (tables.wallet handling.request) = some walletId
  | .reading userId _ config keys => handling.Fresh ∧
    governing tables handling.request = some (userId, config) ∧ KeysAt 0 clock keys
  | .enqueuing request | .queued request (.waiting _) => handling.Fresh ∧ handling.Covered request
  | .queued _ (.active _ (.record _ _ spend)) => handling.recorded = none ∧
    handling.confirmed.isSome ∧ handling.amount ≤ spend.amount
  | .queued request (.active ..) => handling.Fresh ∧ handling.Covered request
  | .queued _ (.completed _) | .queued _ (.failed _) => True
  | .recording _ _ _ _ spend keys => handling.recorded = none ∧ handling.amount ≤ spend.amount ∧
    ∃ time, handling.confirmed = some time ∧ KeysAt time clock keys

structure Handling.Dated (clock : Nat) (handling : Handling) : Prop where
  confirmed : ∀ time ∈ handling.confirmed, time ≤ clock
  recorded : ∀ keys ∈ handling.recorded, ∃ time ∈ handling.confirmed, KeysAt time clock keys

structure Handling.Ok (tables : Tables) (clock : Nat) (handling : Handling) : Prop where
  stage : handling.StageOk tables clock
  dated : handling.Dated clock

theorem KeysAt.mono {earlier since now later : Nat} {keys : SpendKeys} (read : KeysAt since now keys)
    (before : earlier ≤ since) (after : now ≤ later) : KeysAt earlier later keys := by
  obtain ⟨userId, walletId, times⟩ := read
  refine ⟨userId, walletId, ?_⟩
  intro kind
  obtain ⟨time, from_, until_, key⟩ := times kind
  exact ⟨time, before.trans from_, until_.trans after, key⟩

theorem keysAt_read (userId walletId : String) (clock elapsedMs : Nat) :
    KeysAt clock (clock + elapsedMs) (keysAt userId walletId clock elapsedMs) := by
  refine ⟨userId, walletId, ?_⟩
  intro kind
  cases kind with
  | daily => exact ⟨clock, le_rfl, Nat.le_add_right .., rfl⟩
  | weekly => exact ⟨clock + elapsedMs, Nat.le_add_right .., le_rfl, rfl⟩
  | lifetime => exact ⟨clock, le_rfl, Nat.le_add_right .., rfl⟩

theorem Handling.Dated.later {clock later : Nat} {handling : Handling} (dated : handling.Dated clock)
    (after : clock ≤ later) : handling.Dated later := by
  refine ⟨fun time member => (dated.confirmed time member).trans after, ?_⟩
  intro keys member
  obtain ⟨time, at_, read⟩ := dated.recorded keys member
  exact ⟨time, at_, read.mono le_rfl after⟩

theorem Handling.Ok.later {tables : Tables} {clock later : Nat} {handling : Handling}
    (ok : handling.Ok tables clock) (after : clock ≤ later) : handling.Ok tables later := by
  obtain ⟨stage, dated⟩ := ok
  refine ⟨?_, dated.later after⟩
  unfold Handling.StageOk at stage ⊢
  split at stage
  all_goals first
    | exact stage
    | exact ⟨stage.1, stage.2.1, stage.2.2.mono le_rfl after⟩
    | skip
  obtain ⟨unrecorded, covered, time, at_, read⟩ := stage
  exact ⟨unrecorded, covered, time, at_, read.mono le_rfl after⟩

theorem spendOf_amount {request : TransactionRequest} {spend : Spend}
    (spends : TxQueue.spendOf request = some spend) :
    amountStroops request = some spend.amount ∧ 0 < spend.amount := by
  simp only [TxQueue.spendOf, Option.bind_eq_bind, Option.bind_eq_some_iff] at spends
  obtain ⟨_, _, _, _, text, stated, amount, parsed, spends⟩ := spends
  split at spends
  · next positive =>
    cases spends
    exact ⟨by simp only [amountStroops, stated, parsed], positive⟩
  · cases spends

theorem covered_plain (handling : Handling) : handling.Covered handling.request := by
  intro spend spends
  obtain ⟨amount, positive⟩ := spendOf_amount spends
  simp only [Handling.amount, amount, Option.getD_some]
  omega

theorem covered_checked (handling : Handling) (userId walletId : String) :
    handling.Covered (checked handling.request userId walletId) := by
  intro spend spends
  obtain ⟨amount, positive⟩ := spendOf_amount spends
  have read : amountStroops (checked handling.request userId walletId) =
      some ((amountStroops handling.request).getD 0) := by
    rw [checked]
    generalize (amountStroops handling.request).getD 0 = value
    rw [amountStroops, truthy_some (Number.toString_ne_empty value)]
    exact Number.bigInt_toString value
  have same := Option.some_inj.mp (read.symm.trans amount)
  rw [Handling.amount, same]
  omega

theorem inFlight_unconfirmed {handling : Handling} (waits : handling.inFlight = true) :
    handling.confirmed = none :=
  Option.isNone_iff_eq_none.mp (Bool.and_eq_true_iff.mp waits).1

theorem amount_same {before after : Handling} (same : after.request = before.request) :
    after.amount = before.amount := by
  simp only [Handling.amount, same]

inductive Moved (tables : Tables) (system : System) (before after : Handling) (redis : Redis) : Prop where
  | kept (confirmed : after.confirmed = before.confirmed) (recorded : after.recorded = before.recorded)
      (quiet : after.inFlight = true → before.inFlight = true) (same : redis = system.redis)
  | admitted (fresh : before.Fresh) (confirmed : after.confirmed = none) (recorded : after.recorded = none)
      (room : ∀ userId row, governing tables before.request = some (userId, row) → 0 < before.amount →
        ∃ keys, KeysAt 0 system.clock keys ∧ Room tables system userId row keys before.amount)
      (same : redis = system.redis)
  | confirmed (waited : before.inFlight = true) (confirmed : after.confirmed = some system.clock)
      (recorded : after.recorded = before.recorded) (same : redis = system.redis)
  | recorded (time : Nat) (keys : SpendKeys) (amount : Int) (complete : Bool)
      (confirmed : before.confirmed = some time) (still : after.confirmed = some time)
      (unrecorded : before.recorded = none) (recorded : after.recorded = if complete then some keys else none)
      (read : KeysAt time system.clock keys) (covered : before.amount ≤ amount)
      (ran : luaScript system.redis system.clock keys amount = (redis, complete))

theorem Handling.Fresh.inFlight {handling : Handling} (fresh : handling.Fresh) {request : TransactionRequest}
    {attemptsMade : Nat} {phase : Phase}
    (stage : handling.stage = .queued request (.active attemptsMade phase)) :
    handling.inFlight = true := by
  simp [Handling.inFlight, fresh.1, stage]

theorem advance_record {request : TransactionRequest} {phase : Phase} {response : Response}
    {txHash : String} {ledger : Nat} {spend : Spend}
    (advance : TxQueue.Advance request phase response (.record txHash ledger spend))
    (unrecorded : ∀ hash ledger spend, phase ≠ .record hash ledger spend) :
    confirms phase (.record txHash ledger spend) = true ∧ TxQueue.spendOf request = some spend := by
  cases advance with
  | stays => exact absurd rfl (unrecorded _ _ _)
  | records hash status retries ledger spend spends => exact ⟨rfl, spends⟩

theorem confirms_cases {phase phase' : Phase} (confirmed : confirms phase phase' = true) :
    (∃ result, phase' = .returned result) ∨ ∃ hash ledger spend, phase' = .record hash ledger spend := by
  cases phase' with
  | returned result => exact .inl ⟨result, rfl⟩
  | record hash ledger spend => exact .inr ⟨hash, ledger, spend, rfl⟩
  | key | reset | account | cached | save | prepare | send | resetRejected | poll | resetFailed | verify
  | thrown => cases phase <;> cases confirmed

theorem settled_stageOk {tables : Tables} {clock attemptsMade : Nat} {handling : Handling}
    {request : TransactionRequest} {phase : Phase}
    (stage : handling.stage = .queued request (settled attemptsMade phase)) (fresh : handling.Fresh)
    (covered : handling.Covered request)
    (unrecorded : ∀ hash ledger spend, phase ≠ .record hash ledger spend) :
    handling.StageOk tables clock := by
  unfold Handling.StageOk
  rw [stage]
  cases phase with
  | record => exact absurd rfl (unrecorded _ _ _)
  | thrown error =>
    cases error with
    | error message =>
      by_cases left : attemptsMade + 1 < TxQueue.attempts
      · simp only [settled, left, if_true]
        exact ⟨fresh, covered⟩
      · simp only [settled, left, if_false]
    | unrecoverable message => trivial
  | returned result => trivial
  | key | reset | account | cached | save | prepare | send | resetRejected | poll | resetFailed | verify =>
    exact ⟨fresh, covered⟩

theorem fresh_dated {clock : Nat} {handling : Handling} (fresh : handling.Fresh) :
    handling.Dated clock := by
  constructor
  · rw [fresh.1]
    intro time none
    cases none
  · rw [fresh.2]
    intro keys none
    cases none

theorem Moved.dated {tables : Tables} {system : System} {before after : Handling} {redis : Redis}
    (moved : Moved tables system before after redis) (dated : before.Dated system.clock) :
    after.Dated system.clock := by
  cases moved with
  | kept confirmed recorded =>
    constructor
    · rw [confirmed]
      exact dated.confirmed
    · rw [confirmed, recorded]
      exact dated.recorded
  | admitted fresh confirmed recorded => exact fresh_dated ⟨confirmed, recorded⟩
  | confirmed waited confirmed recorded =>
    constructor
    · rw [confirmed]
      intro time now
      cases now
      exact le_rfl
    · rw [recorded]
      intro keys held
      obtain ⟨time, at_, _⟩ := dated.recorded keys held
      cases (inFlight_unconfirmed waited).symm.trans at_
  | recorded time keys amount complete confirmed still unrecorded recorded read =>
    constructor
    · rw [still, ← confirmed]
      exact dated.confirmed
    · intro keys' held
      rw [recorded] at held
      cases complete with
      | false => cases held
      | true =>
        cases held
        exact ⟨time, still, read⟩

section Perform

variable {tables : Tables} {system : System} {before after : Handling} {redis : Redis} {clock : Nat}
  {userId walletId : String} {config : SpendLimit} {keys : SpendKeys}

structure Performed (tables : Tables) (system : System) (clock : Nat) (before after : Handling)
    (redis : Redis) : Prop where
  request : after.request = before.request
  stage : after.StageOk tables clock
  moved : Moved tables system before after redis

theorem Performed.same (stage : before.StageOk tables system.clock) :
    Performed tables system system.clock before before system.redis :=
  ⟨rfl, stage, .kept rfl rfl id rfl⟩

theorem Performed.staged {stage : Stage}
    (stageOk : ({ before with stage } : Handling).StageOk tables clock)
    (quiet : ({ before with stage } : Handling).inFlight = true → before.inFlight = true) :
    Performed tables system clock before { before with stage } system.redis :=
  ⟨rfl, stageOk, .kept rfl rfl quiet rfl⟩

theorem Performed.enqueued (fresh : before.Fresh) {request : TransactionRequest}
    (covered : before.Covered request)
    (room : ∀ userId row, governing tables before.request = some (userId, row) → 0 < before.amount →
      ∃ keys, KeysAt 0 system.clock keys ∧ Room tables system userId row keys before.amount) :
    Performed tables system clock before { before with stage := .enqueuing request } system.redis :=
  ⟨rfl, ⟨fresh, covered⟩, .admitted fresh fresh.1 fresh.2 room rfl⟩

theorem Performed.refused (fresh : before.Fresh) (message : String) :
    Performed tables system clock before { before with stage := .refused message } system.redis := by
  refine .staged fresh ?_
  intro flying
  simp [Handling.inFlight] at flying

theorem truthy_orElse {own found : Option String} {text : String}
    (stated : truthy (truthy own <|> none) = some text) : truthy (truthy own <|> found) = some text := by
  cases given : truthy own with
  | none =>
    rw [given] at stated
    cases stated
  | some value => simpa [given] using stated

theorem owner_of_unfound {request : TransactionRequest} {wallet : Option WalletRow}
    (lookup : wallet = tables.wallet request ∨ wallet = none)
    (user : userIdOf request wallet = some userId) (found : walletIdOf request wallet = some walletId) :
    userIdOf request (tables.wallet request) = some userId ∧
      walletIdOf request (tables.wallet request) = some walletId := by
  rcases lookup with rfl | rfl
  · exact ⟨user, found⟩
  · exact ⟨truthy_orElse user, truthy_orElse found⟩

theorem governing_user {request : TransactionRequest} {row : SpendLimit}
    (governed : governing tables request = some (userId, row)) :
    userIdOf request (tables.wallet request) = some userId := by
  simp only [governing, Option.bind_eq_bind, Option.bind_eq_some_iff] at governed
  obtain ⟨user, found, row', _, same⟩ := governed
  cases same
  exact found

theorem walletFound_performed (fresh : before.Fresh) {wallet : Option WalletRow}
    (lookup : wallet = tables.wallet before.request ∨ wallet = none)
    (admits : ∀ userId row, governing tables before.request = some (userId, row) →
      wallet = tables.wallet before.request ∧ (walletIdOf before.request wallet).isSome) :
    Performed tables system clock before
      { before with
        stage := walletFound before.request wallet } system.redis := by
  have unchecked (unknown : userIdOf before.request wallet = none ∨
      walletIdOf before.request wallet = none) :
      Performed tables system clock before
        { before with
          stage := .enqueuing before.request } system.redis := by
    refine .enqueued fresh (covered_plain before) ?_
    intro userId row governed
    obtain ⟨found, known⟩ := admits userId row governed
    have user := governing_user governed
    rw [← found] at user
    rcases unknown with none | none
    · cases none.symm.trans user
    · rw [none] at known
      cases known
  unfold walletFound
  cases user : userIdOf before.request wallet with
  | none => exact unchecked (.inl user)
  | some userId =>
    cases found : walletIdOf before.request wallet with
    | none => exact unchecked (.inr found)
    | some walletId =>
      refine .staged ⟨fresh, owner_of_unfound lookup user found⟩ ?_
      intro flying
      simp [Handling.inFlight] at flying

theorem limitFound_performed (fresh : before.Fresh)
    (user : userIdOf before.request (tables.wallet before.request) = some userId)
    (wallet : walletIdOf before.request (tables.wallet before.request) = some walletId)
    (elapsedMs : Nat) :
    Performed tables system (system.clock + elapsedMs) before
      { before with
        stage := limitFound tables before.request userId walletId system.clock elapsedMs }
      system.redis := by
  have governs : governing tables before.request =
      (findConfig tables.limits userId (some walletId) before.request.delegationId).map (userId, ·) := by
    simp only [governing, user, wallet, Option.bind_eq_bind, Option.bind_some]
    cases findConfig tables.limits userId (some walletId) before.request.delegationId <;> rfl
  unfold limitFound
  cases found : findConfig tables.limits userId (some walletId) before.request.delegationId with
  | none =>
    refine .enqueued fresh (covered_checked before userId walletId) ?_
    intro user row governed
    rw [governs, found] at governed
    cases governed
  | some config =>
    dsimp only
    cases exceeded : checkPerTransaction config ((amountStroops before.request).getD 0) with
    | some refusal => exact .refused fresh _
    | none =>
      have read := keysAt_read userId walletId system.clock elapsedMs
      refine .staged ⟨fresh, by rw [governs, found]; rfl, read.mono (Nat.zero_le _) le_rfl⟩ ?_
      intro flying
      simp [Handling.inFlight] at flying

theorem countersRead_performed (fresh : before.Fresh)
    (governed : governing tables before.request = some (userId, config))
    (read : KeysAt 0 system.clock keys)
    (admits : (countersRead system.redis system.clock before.request userId walletId config keys).enqueues →
      0 < before.amount → Room tables system userId config keys before.amount) :
    Performed tables system clock before
      { before with
        stage := countersRead system.redis system.clock before.request userId walletId config keys }
      system.redis := by
  unfold countersRead at admits ⊢
  dsimp only at admits ⊢
  split
  · next passes =>
    refine .enqueued fresh (covered_checked before userId walletId) ?_
    intro user row same positive
    cases governed.symm.trans same
    rw [if_pos passes] at admits
    exact ⟨keys, read, admits trivial positive⟩
  · exact .refused fresh _

theorem answer_performed {request : TransactionRequest} {attemptsMade : Nat} {phase : Phase}
    {response : Response}
    (stage : before.stage = .queued request (.active attemptsMade phase))
    (fresh : before.Fresh) (covered : before.Covered request)
    (unrecorded : ∀ hash ledger spend, phase ≠ .record hash ledger spend)
    (same : after.request = before.request)
    (answered : after.stage = .queued request
      (settled attemptsMade (executeTxJob request (attemptsMade + 1) phase response)))
    (confirmed : after.confirmed =
      if confirms phase (executeTxJob request (attemptsMade + 1) phase response) then
        some system.clock
      else before.confirmed)
    (recorded : after.recorded = before.recorded) :
    Performed tables system system.clock before after system.redis := by
  have advance := TxQueue.executeTxJob_advance request (attemptsMade + 1) phase response
  generalize executeTxJob request (attemptsMade + 1) phase response = phase' at *
  cases knows : confirms phase phase' with
  | false =>
    rw [knows] at confirmed
    have freshAfter : after.Fresh := ⟨confirmed.trans fresh.1, recorded.trans fresh.2⟩
    refine ⟨same, settled_stageOk answered freshAfter ?_ ?_,
      .kept confirmed recorded (fun _ => fresh.inFlight stage) rfl⟩
    · intro spend spends
      rw [amount_same same]
      exact covered spend spends
    · rintro hash ledger spend rfl
      rw [(advance_record advance unrecorded).1] at knows
      cases knows
  | true =>
    rw [knows, if_pos rfl] at confirmed
    refine ⟨same, ?_, .confirmed (fresh.inFlight stage) confirmed recorded rfl⟩
    rcases confirms_cases knows with ⟨result, rfl⟩ | ⟨hash, ledger, spend, rfl⟩
    · simp only [Handling.StageOk, answered, settled]
    · simp only [Handling.StageOk, answered, settled]
      refine ⟨recorded.trans fresh.2, by simp [confirmed], ?_⟩
      rw [amount_same same]
      exact covered spend (advance_record advance unrecorded).2

-- From the answer on, the keys are those of a time after the confirmation.
theorem keysRead_performed {request : TransactionRequest} {attemptsMade : Nat} {txHash : String}
    {ledger : Nat} {spend : Spend}
    (stage : before.stage = .queued request (.active attemptsMade (.record txHash ledger spend)))
    (ok : before.Ok tables system.clock) (elapsedMs : Nat) :
    Performed tables system (system.clock + elapsedMs) before
      { before with
        stage := .recording request attemptsMade txHash ledger spend
          (keysAt spend.userId spend.walletId system.clock elapsedMs) } system.redis := by
  have stageOk := ok.stage
  unfold Handling.StageOk at stageOk
  rw [stage] at stageOk
  obtain ⟨unrecorded, known, covered⟩ := stageOk
  obtain ⟨time, at_⟩ := Option.isSome_iff_exists.mp known
  have past := ok.dated.confirmed time at_
  have read := keysAt_read spend.userId spend.walletId system.clock elapsedMs
  refine ⟨rfl, ⟨unrecorded, covered, time, at_, read.mono past le_rfl⟩, .kept rfl rfl ?_ rfl⟩
  intro flying
  simp [Handling.inFlight] at flying

end Perform

theorem perform_performed {tables : Tables} {system : System} {id elapsedMs : Nat} {action : Action}
    {before after : Handling} {redis : Redis} (found : system.requests[id]? = some before)
    (ok : before.Ok tables system.clock) (admissible : Admissible tables system (.act id action))
    (performed : perform tables system.clock system.redis before action = (after, elapsedMs, redis)) :
    Performed tables system (system.clock + elapsedMs) before after redis := by
  have stageOk := ok.stage
  have admits := fun userId row => admissible before userId row found
  unfold Handling.StageOk at stageOk
  unfold perform at performed
  split at performed
  case h_1 answered stage =>
    cases performed
    rw [stage] at stageOk
    simp only [stage] at admits
    refine walletFound_performed stageOk ?_ ?_
    · cases answered
      · exact .inr rfl
      · exact .inl rfl
    · intro userId row governed
      obtain ⟨rfl, known⟩ := admits userId row governed
      exact ⟨rfl, known⟩
  case h_2 userId walletId answered elapsed stage =>
    rw [stage] at stageOk
    simp only [stage] at admits
    obtain ⟨fresh, user, wallet⟩ := stageOk
    cases answered with
    | true =>
      cases performed
      exact limitFound_performed fresh user wallet elapsedMs
    | false =>
      cases performed
      refine .enqueued fresh (covered_plain before) ?_
      intro userId row governed
      cases admits userId row governed
  case h_3 userId walletId config keys answered stage =>
    rw [stage] at stageOk
    simp only [stage] at admits
    obtain ⟨fresh, governed, read⟩ := stageOk
    obtain ⟨rfl, room⟩ := admits userId config governed
    cases performed
    exact countersRead_performed fresh governed read room
  case h_4 request stage =>
    cases performed
    rw [stage] at stageOk
    refine .staged stageOk ?_
    intro _
    simp [Handling.inFlight, stageOk.1.1, stage]
  case h_5 request message stage =>
    cases performed
    rw [stage] at stageOk
    exact .refused stageOk.1 message
  case h_6 request attemptsMade stage =>
    cases performed
    rw [stage] at stageOk
    refine .staged stageOk ?_
    intro _
    simp [Handling.inFlight, stageOk.1.1, stage]
  case h_7 request attemptsMade txHash ledger spend elapsed stage =>
    cases performed
    exact keysRead_performed stage ok elapsedMs
  case h_8 =>
    cases performed
    exact .same ok.stage
  case h_9 request attemptsMade phase response other stage =>
    have pending : before.Fresh ∧ before.Covered request := by
      rw [stage] at stageOk
      cases phase with
      | record => exact absurd rfl (other _ _ _)
      | key | reset | account | cached | save | prepare | send | resetRejected | poll | resetFailed | verify
      | returned | thrown => exact stageOk
    cases performed
    exact answer_performed stage pending.1 pending.2 other rfl rfl rfl rfl
  case h_10 request attemptsMade txHash ledger spend keys reached stage =>
    rw [stage] at stageOk
    obtain ⟨unrecorded, covered, time, at_, read⟩ := stageOk
    cases reached with
    | false =>
      cases performed
      refine ⟨rfl, trivial, .kept rfl unrecorded.symm ?_ rfl⟩
      intro flying
      simp [Handling.inFlight, at_] at flying
    | true =>
      generalize ran : luaScript system.redis system.clock keys spend.amount = result at performed
      obtain ⟨grown, complete⟩ := result
      cases performed
      exact ⟨rfl, trivial,
        .recorded time keys spend.amount complete at_ at_ unrecorded rfl read covered ran⟩
  case h_11 =>
    cases performed
    exact .same ok.stage

end Delego.Wallet.SpendLimits
