import Delego.Shared.Run
import Delego.Wallet.TxQueue

set_option autoImplicit false

namespace Delego.Wallet.TxQueue

open Shared Shared.Text

def recordCall : Phase → Phase → Option Spend
  | .poll .., .record _ _ spend => some spend
  | _, _ => none

def attemptStep (request : TransactionRequest) (attempt : Nat) (phase : Phase) (response : Response) :
    Option Spend × Phase :=
  let phase' := executeTxJob request attempt phase response
  (recordCall phase phase', phase')

def attemptRun (request : TransactionRequest) (attempt : Nat) : List Response → Phase :=
  Run.final (attemptStep request attempt) .key

def recorded (request : TransactionRequest) (attempt : Nat) (responses : List Response) : List Spend :=
  (Run.history (attemptStep request attempt) .key responses).filterMap Receipt.output

structure Spends (request : TransactionRequest) (spend : Spend) : Prop where
  userId : request.userId = some spend.userId
  user : spend.userId ≠ ""
  walletId : request.walletId = some spend.walletId
  wallet : spend.walletId ≠ ""
  amount : ∃ amountStroops, request.amountStroops = some amountStroops ∧ amountStroops ≠ "" ∧
    Number.bigInt amountStroops = some spend.amount
  positive : 0 < spend.amount

/-- What the services answer is so: the fate of a transaction is whether it succeeded on the ledger, if
it is included at all. -/
def Honest (txHash : String) (fate : String → Option Bool) : Phase → Response → Prop
  | .send _, .sent reply => reply.hash = txHash
  | .poll hash _ _, .status (.success _) => fate hash = some true
  | .poll hash _ _, .status (.failed _) => fate hash = some false
  | .verify hash _, .done => (fate hash).isSome
  | _, _ => True

def SuccessRecorded (request : TransactionRequest) (attempt : Nat) (txHash : String)
    (fate : String → Option Bool) (spend : Spend) (responses : List Response) : Prop :=
  ∀ result, attemptRun request attempt responses = .returned result → result.success = true →
    result.hash = txHash ∧ fate txHash = some true ∧ recorded request attempt responses = [spend]

/-- Polling has run out, and the ledger check has then found the transaction. -/
def FoundLate (request : TransactionRequest) (attempt : Nat) (responses : List Response) : Prop :=
  ∃ older hash status, .done :: older <:+ responses ∧
    attemptRun request attempt older = .verify hash status

variable {request : TransactionRequest} {attempt : Nat} {txHash : String}
  {fate : String → Option Bool} {spend : Spend}

theorem Spends.spendOf (spends : Spends request spend) : spendOf request = some spend := by
  obtain ⟨userId, user, walletId, wallet, ⟨amountStroops, given, stated, parsed⟩, positive⟩ := spends
  simp [TxQueue.spendOf, userId, walletId, given, truthy_some, user, wallet, stated, parsed, positive]

-- What is known of the transaction and its record at each point of an attempt.
def Known (txHash : String) (fate : String → Option Bool) (spend : Spend) (late : Prop)
    (calls : List Spend) : Phase → Prop
  | .record hash _ _ => hash = txHash ∧ fate txHash = some true ∧ calls = [spend] ∧ ¬ late
  | .returned result => result.success = true ∧ (late ∧ calls = [] ∨
    ¬ late ∧ result.hash = txHash ∧ fate txHash = some true ∧ calls = [spend])
  | .poll hash _ _ => hash = txHash ∧ calls = [] ∧ ¬ late
  | _ => calls = [] ∧ ¬ late

theorem foundLate_cons {response : Response} {older : List Response} :
    FoundLate request attempt (response :: older) ↔
      FoundLate request attempt older ∨ response = .done ∧
        ∃ hash status, attemptRun request attempt older = .verify hash status := by
  constructor
  · rintro ⟨older', hash, status, suffix, verify⟩
    rcases List.suffix_cons_iff.mp suffix with whole | within
    · cases whole
      exact .inr ⟨rfl, hash, status, verify⟩
    · exact .inl ⟨older', hash, status, within, verify⟩
  · rintro (⟨older', hash, status, suffix, verify⟩ | ⟨rfl, hash, status, verify⟩)
    · exact ⟨older', hash, status, suffix.trans (List.suffix_cons ..), verify⟩
    · exact ⟨older, hash, status, List.suffix_rfl, verify⟩

theorem step_known (attempt : Nat) {phase : Phase} {response : Response} {late : Prop}
    {calls : List Spend} (spends : Spends request spend) (honest : Honest txHash fate phase response)
    (known : Known txHash fate spend late calls phase) :
    Known txHash fate spend (late ∨ response = .done ∧ ∃ hash status, phase = .verify hash status)
      ((recordCall phase (executeTxJob request attempt phase response)).toList ++ calls)
      (executeTxJob request attempt phase response) := by
  have advance := executeTxJob_advance request attempt phase response
  generalize executeTxJob request attempt phase response = phase' at advance
  cases advance with
  | stays phase response other =>
    have same : (late ∨ response = .done ∧ ∃ hash status, phase = .verify hash status) = late := by
      rw [or_iff_left]
      rintro ⟨done, hash, status, verify⟩
      exact other hash status verify done
    have silent : recordCall phase phase = none := by
      cases phase <;> rfl
    rw [same, silent]
    exact known
  | verifies hash status =>
    obtain ⟨rfl, early⟩ := known
    exact ⟨rfl, .inl ⟨.inr ⟨rfl, hash, status, rfl⟩, rfl⟩⟩
  | misses hash status message error =>
    obtain ⟨rfl, early⟩ := known
    exact ⟨rfl, by simpa using early⟩
  | throws phase response error unconfirmed =>
    have known : calls = [] ∧ ¬ late := by
      cases phase with
      | record | verify | returned | thrown => cases unconfirmed
      | poll => exact known.2
      | key | reset | account | cached | save | prepare | send | resetRejected | resetFailed => exact known
    have silent : recordCall phase (.thrown error) = none := by
      cases phase <;> rfl
    rw [silent]
    obtain ⟨rfl, early⟩ := known
    refine ⟨rfl, ?_⟩
    rintro (late | ⟨_, hash, status, rfl⟩)
    · exact early late
    · cases unconfirmed
  | records hash status retries ledger spend' stated =>
    obtain ⟨same, rfl, early⟩ := known
    cases stated.symm.trans spends.spendOf
    exact ⟨same, same ▸ honest, rfl, by simpa using early⟩
  | succeeds hash status retries ledger unspent => cases unspent.symm.trans spends.spendOf
  | finishes hash ledger spend' response =>
    obtain ⟨same, applied, calls, early⟩ := known
    exact ⟨rfl, .inr ⟨by simpa using early, same, applied, calls⟩⟩
  | submits sequence reply retries =>
    obtain ⟨rfl, early⟩ := known
    exact ⟨honest, rfl, by simpa using early⟩
  | waits hash status retries left =>
    obtain ⟨same, rfl, early⟩ := known
    exact ⟨same, rfl, by simpa using early⟩
  | exhausts | fails =>
    obtain ⟨same, rfl, early⟩ := known
    exact ⟨rfl, by simpa using early⟩
  | begins | retries | resets | loads | picks | saves | prepares | rejected =>
    obtain ⟨rfl, early⟩ := known
    exact ⟨rfl, by simpa using early⟩

theorem recorded_cons (response : Response) (older : List Response) :
    recorded request attempt (response :: older) =
      (recordCall (attemptRun request attempt older)
        (attemptRun request attempt (response :: older))).toList ++ recorded request attempt older := by
  cases call : recordCall (attemptRun request attempt older)
      (attemptRun request attempt (response :: older)) with
  | none => exact List.filterMap_cons_none call
  | some spend => exact List.filterMap_cons_some call

theorem run_known (spends : Spends request spend) {responses : List Response}
    (honest : ∀ response older, response :: older <:+ responses →
      Honest txHash fate (attemptRun request attempt older) response) :
    ∀ older, older <:+ responses → Known txHash fate spend (FoundLate request attempt older)
      (recorded request attempt older) (attemptRun request attempt older) := by
  refine Run.along ⟨rfl, ?_⟩ ?_
  · rintro ⟨older, hash, status, suffix, _⟩
    cases List.suffix_nil.mp suffix
  · intro response older within known
    have next := step_known attempt spends (honest response older within) known
    rw [← foundLate_cons] at next
    rw [recorded_cons]
    exact next

/-- A success is a successful transaction with its amount recorded once, unless polling ran out and the
ledger check has answered. -/
theorem success_recorded_iff (request : TransactionRequest) (spend : Spend)
    (spends : Spends request spend) (attempt : Nat) (txHash : String) (fate : String → Option Bool)
    (responses : List Response)
    (honest : ∀ response older, response :: older <:+ responses →
      Honest txHash fate (attemptRun request attempt older) response) :
    SuccessRecorded request attempt txHash fate spend responses ↔
      ¬ FoundLate request attempt responses := by
  have known := run_known spends honest responses List.suffix_rfl
  unfold SuccessRecorded
  cases phase : attemptRun request attempt responses with
  | returned result =>
    rw [phase] at known
    obtain ⟨success, known⟩ := known
    constructor
    · intro successful late
      rcases known with ⟨_, none⟩ | ⟨early, _⟩
      · obtain ⟨_, _, once⟩ := successful result rfl success
        rw [none] at once
        cases once
      · exact early late
    · intro early result' same _
      cases same
      rcases known with ⟨late, _⟩ | ⟨_, confirmed⟩
      · exact absurd late early
      · exact confirmed
  | key | reset | account | cached | save | prepare | send | resetRejected | poll | record | resetFailed
  | verify | thrown =>
    rw [phase] at known
    have early : ¬ FoundLate request attempt responses := by
      first
        | exact known.2
        | exact known.2.2
        | exact known.2.2.2
    constructor
    · intro _
      exact early
    · intro _ result returned
      cases returned

def pending : List Response :=
  [ .sent ⟨"PENDING", "aa", "\x7b\"status\":\"PENDING\"\x7d"⟩, .done, .done, .cached none, .account 5, .done ]

theorem success_recorded_sample :
    SuccessRecorded sampleRequest 1 "aa" (fun _ => some true) ⟨"user", "wallet", 10⟩
      (.done :: .status (.success 7) :: pending) ↔
    ¬ FoundLate sampleRequest 1 (.done :: .status (.success 7) :: pending) := by
  refine success_recorded_iff sampleRequest ⟨"user", "wallet", 10⟩
    ⟨rfl, by decide, rfl, by decide, ⟨"10", rfl, by decide, by decide +kernel⟩, by decide⟩ 1 "aa" _ _ ?_
  intro response older within
  simp only [pending, List.suffix_cons_iff, List.suffix_nil, List.cons.injEq, reduceCtorEq,
    or_false] at within
  rcases within with ⟨rfl, rfl⟩ | ⟨rfl, rfl⟩ | ⟨rfl, rfl⟩ | ⟨rfl, rfl⟩ | ⟨rfl, rfl⟩ | ⟨rfl, rfl⟩ |
    ⟨rfl, rfl⟩ | ⟨rfl, rfl⟩
  all_goals trivial

-- Twelve times the RPC has not seen it; the ledger has taken it in, and it has failed there.
def foundFailed : List Response :=
  .done :: List.replicate 12 (.status .notFound) ++ pending

theorem failed_transaction_succeeds :
    ¬ SuccessRecorded sampleRequest 1 "aa" (fun _ => some false) ⟨"user", "wallet", 10⟩ foundFailed := by
  intro recorded
  obtain ⟨_, applied, _⟩ := recorded ⟨"aa", 0, true⟩ rfl rfl
  cases applied

end Delego.Wallet.TxQueue
