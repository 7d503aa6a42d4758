import Delego.Shared.Run
import Delego.Wallet.SpendBooks

set_option autoImplicit false

namespace Delego.Wallet.SpendLimits

open Shared Shared.Text
open TxQueue (TransactionRequest Spend Job Phase Response executeTxJob settled)

structure Kept (tables : Tables) (system : System) : Prop where
  handlings : ∀ handling ∈ system.requests, handling.Ok tables system.clock
  books : Books tables system.clock system.redis system.requests

theorem Kept.bounded {tables : Tables} {system : System} (kept : Kept tables system) :
    SpendBounded tables system := by
  intro userId row listed kind limit span limited
  exact (kept.books.bounded userId row listed kind limit limited).1 span

theorem received_ok (tables : Tables) (clock : Nat) (request : TransactionRequest) :
    (⟨request, received request, none, none⟩ : Handling).Ok tables clock := by
  refine ⟨?_, fresh_dated ⟨rfl, rfl⟩⟩
  unfold received
  cases amountStroops request with
  | none => exact ⟨rfl, rfl⟩
  | some amount =>
    cases user : truthy request.userId with
    | none => exact ⟨rfl, rfl⟩
    | some userId =>
      cases wallet : truthy request.walletId with
      | none => exact ⟨rfl, rfl⟩
      | some walletId =>
        exact ⟨⟨rfl, rfl⟩, truthy_orElse (by simpa using user), truthy_orElse (by simpa using wallet)⟩

theorem received_idle (request : TransactionRequest) :
    (⟨request, received request, none, none⟩ : Handling).inFlight = false := by
  unfold received Handling.inFlight
  cases amountStroops request with
  | none => rfl
  | some amount => cases truthy request.userId <;> cases truthy request.walletId <;> rfl

theorem submit_kept {tables : Tables} {system : System} (kept : Kept tables system)
    (request : TransactionRequest) : Kept tables (step tables system (.submit request)) := by
  have ok := received_ok tables system.clock request
  have idle := received_idle request
  simp only [step]
  refine ⟨?_, kept.books.stored, ?_, ?_⟩
  · intro handling member
    rcases List.mem_append.mp member with old | new
    · exact kept.handlings handling old
    · rw [List.mem_singleton.mp new]
      exact ok
  · intro kind userId walletId
    rw [total_append, recordedUnder_unrecorded rfl]
    exact kept.books.counted kind userId walletId
  · intro userId row listed kind limit limited
    obtain ⟨spans, current⟩ := kept.books.bounded userId row listed kind limit limited
    refine ⟨?_, ?_⟩
    · intro span
      rw [total_append, spent_unconfirmed rfl]
      exact spans span
    · rw [total_append, total_append, spent_unconfirmed rfl, awaited_of_over idle]
      exact current

theorem act_kept {tables : Tables} {system : System} (kept : Kept tables system) (id : Nat)
    (action : Action) (admissible : Admissible tables system (.act id action)) :
    Kept tables (step tables system (.act id action)) := by
  cases found : system.requests[id]? with
  | none =>
    simp only [step, found]
    exact kept
  | some before =>
    have ok := kept.handlings before (List.mem_of_getElem? found)
    generalize performed : perform tables system.clock system.redis before action = result
    obtain ⟨after, elapsedMs, redis⟩ := result
    obtain ⟨same, stage, moved⟩ := perform_performed found ok admissible performed
    simp only [step, found, performed]
    have later := Nat.le_add_right system.clock elapsedMs
    have books : Books tables system.clock redis (system.requests.set id after) := by
      cases moved with
      | kept confirmed recorded quiet unchanged =>
        rw [unchanged]
        exact kept.books.kept found same confirmed recorded quiet
      | admitted fresh confirmed recorded room unchanged =>
        rw [unchanged]
        exact kept.books.admitted (fun handling member => (kept.handlings handling member).dated) found
          same fresh confirmed recorded room
      | confirmed waited confirmed recorded unchanged =>
        rw [unchanged]
        exact kept.books.confirmed found same waited confirmed recorded
      | recorded time keys amount complete confirmed still unrecorded recorded read covered ran =>
        exact kept.books.recorded found same confirmed still unrecorded recorded read covered ran
    have dated := moved.dated ok.dated
    refine ⟨?_, books.later ?_ later⟩
    · intro handling member
      rcases List.mem_or_eq_of_mem_set member with old | rfl
      · exact (kept.handlings handling old).later later
      · exact ⟨stage, dated.later later⟩
    · intro handling member
      rcases List.mem_or_eq_of_mem_set member with old | rfl
      · exact (kept.handlings handling old).dated
      · exact dated

theorem step_kept {tables : Tables} {system : System} (kept : Kept tables system) {input : Input}
    (admissible : Admissible tables system input) : Kept tables (step tables system input) := by
  cases input with
  | submit request => exact submit_kept kept request
  | wait elapsedMs =>
    have later := Nat.le_add_right system.clock elapsedMs
    exact ⟨fun handling member => (kept.handlings handling member).later later,
      kept.books.later (fun handling member => (kept.handlings handling member).dated) later⟩
  | act id action => exact act_kept kept id action admissible

theorem run_nil_kept (tables : Tables) (clock : Nat)
    (natural : ∀ row ∈ tables.limits, ∀ (kind : Kind) limit, kind.limit row = some limit → 0 ≤ limit) :
    Kept tables (run tables clock []) := by
  refine ⟨?_, ⟨?_, ?_⟩, ?_, ?_⟩
  · intro handling none
    cases none
  · intro key counter none
    cases none
  · intro kind userId walletId time counter expiry none
    cases none
  · intro kind userId walletId
    exact le_rfl
  · intro userId row listed kind limit limited
    have positive := natural row listed kind limit limited
    exact ⟨fun _ => positive, positive⟩

/-- Confirmed spending stays within the limits in every run in which no check of a limited request is
skipped, and each check that passes leaves room for what its counters do not show. -/
theorem spend_bounded (tables : Tables) (clock : Nat)
    (natural : ∀ row ∈ tables.limits, ∀ (kind : Kind) limit, kind.limit row = some limit → 0 ≤ limit)
    (inputs : List Input)
    (admissible : ∀ input older, input :: older <:+ inputs →
      Admissible tables (run tables clock older) input) :
    ∀ older, older <:+ inputs → SpendBounded tables (run tables clock older) := by
  have kept : ∀ older, older <:+ inputs → Kept tables (run tables clock older) := by
    refine Run.along (run_nil_kept tables clock natural) ?_
    intro input older within kept
    exact step_kept kept (admissible input older within)
  intro older within
  exact (kept older within).bounded

def dailyTen : SpendLimit where
  userId := "user"
  walletId := none
  delegationId := none
  limitPerTransaction := none
  limitDaily := some 10
  limitWeekly := none
  limitLifetime := none

def sampleTables : Tables where
  wallets := []
  limits := [dailyTen]

def confirming : List Action :=
  [ .answer (.status (.success 1)), .answer (.sent ⟨"PENDING", "hash", "\x7b\x7d"⟩), .answer .done,
    .answer .done, .answer (.cached none), .answer (.account 5), .answer .done, .process, .enqueue none ]

def checkedTogether : List Input :=
  confirming.map (.act 1) ++ confirming.map (.act 0) ++
    [ .act 1 (.readCounters true), .act 1 (.findLimit true 0), .act 0 (.readCounters true),
      .act 0 (.findLimit true 0), .submit TxQueue.sampleRequest, .submit TxQueue.sampleRequest ]

theorem concurrent_checks_overspend : ¬ SpendBounded sampleTables (run sampleTables 0 checkedTogether) := by
  intro bounded
  have exceeded : ¬ ((total (spent sampleTables "user" dailyTen .daily · 0)
      (run sampleTables 0 checkedTogether).requests : Int) ≤ 10) := by
    decide +kernel
  exact exceeded (bounded "user" dailyTen (List.mem_singleton.mpr rfl) .daily 10 0 rfl)

-- The second request is checked once the spend of the first has been recorded.
def checkedInTurn : List Input :=
  .act 1 (.readCounters true) :: .act 1 (.findLimit true 0) :: .submit TxQueue.sampleRequest ::
    .act 0 (.runScript true) :: .act 0 (.readKeys 0) :: (confirming.map (.act 0) ++
      [.act 0 (.readCounters true), .act 0 (.findLimit true 0), .submit TxQueue.sampleRequest])

theorem spend_bounded_sample : SpendBounded sampleTables (run sampleTables 0 checkedInTurn) := by
  refine spend_bounded sampleTables 0 ?_ checkedInTurn ?_ checkedInTurn List.suffix_rfl
  · intro row listed kind limit limited
    rw [List.mem_singleton.mp listed] at limited
    cases kind with
    | daily =>
      cases limited
      decide
    | weekly | lifetime => cases limited
  · intro input older within
    simp only [checkedInTurn, confirming, List.map_cons, List.map_nil, List.cons_append, List.nil_append,
      List.suffix_cons_iff, List.suffix_nil, List.cons.injEq, reduceCtorEq, or_false] at within
    rcases within with ⟨rfl, rfl⟩ | ⟨rfl, rfl⟩ | ⟨rfl, rfl⟩ | ⟨rfl, rfl⟩ | ⟨rfl, rfl⟩ | ⟨rfl, rfl⟩ |
      ⟨rfl, rfl⟩ | ⟨rfl, rfl⟩ | ⟨rfl, rfl⟩ | ⟨rfl, rfl⟩ | ⟨rfl, rfl⟩ | ⟨rfl, rfl⟩ | ⟨rfl, rfl⟩ |
      ⟨rfl, rfl⟩ | ⟨rfl, rfl⟩ | ⟨rfl, rfl⟩ | ⟨rfl, rfl⟩
    all_goals first
      | trivial
      | intro handling userId row found governed
        split <;> first | trivial | skip
    · next staged asked =>
      cases asked
      cases found
      cases staged
      exact ⟨rfl, fun enqueues => absurd enqueues (by decide +kernel)⟩
    · next asked =>
      cases asked
      rfl
    · next staged asked =>
      cases asked
      cases found
      cases staged
      refine ⟨rfl, fun _ _ => ?_⟩
      intro kind limit limited
      cases kind with
      | daily =>
        cases limited
        decide +kernel
      | weekly | lifetime => cases limited
    · next asked =>
      cases asked
      rfl

end Delego.Wallet.SpendLimits
