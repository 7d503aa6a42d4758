import Delego.Wallet.SpendStages

set_option autoImplicit false

namespace Delego.Wallet.SpendLimits

open Shared Shared.Text
open TxQueue (TransactionRequest Spend Job Phase Response executeTxJob settled)

/-- What the totals of the requests, the counters and the limits have to do with each other. -/
structure Books (tables : Tables) (clock : Nat) (redis : Redis) (requests : List Handling) : Prop where
  stored : Stored redis
  counted : ∀ (kind : Kind) userId walletId,
    (total (recordedUnder kind · (kind.window.key userId walletId clock)) requests : Int) ≤
      redis.spend clock (kind.window.key userId walletId clock)
  bounded : ∀ userId, ∀ row ∈ tables.limits, ∀ kind limit, kind.limit row = some limit →
    (∀ span, (total (spent tables userId row kind · span) requests : Int) ≤ limit) ∧
      (total (spent tables userId row kind · (kind.window.span clock)) requests : Int) +
        total (awaited tables userId row) requests ≤ limit

section Totals

variable {tables : Tables} {clock clock' : Nat} {redis : Redis} {requests : List Handling}
  {userId walletId : String} {row : SpendLimit} {kind : Kind} {span : Int} {handling before after : Handling}

theorem Handling.Dated.confirmed_before (dated : handling.Dated clock)
    (confirmed : handling.confirmedIn kind span = true) : span ≤ kind.window.span clock := by
  cases at_ : handling.confirmed with
  | none => simp [Handling.confirmedIn, at_] at confirmed
  | some time =>
    simp only [Handling.confirmedIn, at_, Option.any_some, decide_eq_true_eq] at confirmed
    rw [← confirmed]
    exact kind.lawful.forward (dated.confirmed time at_)

theorem Handling.Dated.recorded_before (dated : handling.Dated clock) {time : Nat}
    (recorded : handling.recorded.map kind.key = some (kind.window.key userId walletId time)) :
    kind.window.span time ≤ kind.window.span clock := by
  obtain ⟨keys, held, same⟩ := Option.map_eq_some_iff.mp recorded
  obtain ⟨since, _, userId', walletId', times⟩ := dated.recorded keys held
  obtain ⟨read, _, until_, key⟩ := times kind
  rw [kind.lawful.apart (same.symm.trans key)]
  exact kind.lawful.forward until_

theorem Stored.spend_later (stored : Stored redis) (same : kind.window.span clock = kind.window.span clock') :
    redis.spend clock (kind.window.key userId walletId clock) ≤
      redis.spend clock' (kind.window.key userId walletId clock) := by
  cases held : redis.counter clock (kind.window.key userId walletId clock) with
  | none =>
    have zero : redis.spend clock (kind.window.key userId walletId clock) = 0 := by
      simp only [Redis.spend, held]
    rw [zero]
    exact stored.spend_nonneg _
  | some counter =>
    obtain ⟨present, _⟩ := Redis.counter_eq_some held
    have live : counter.live clock' = true := by
      cases expires : counter.expiry with
      | none => simp only [Counter.live, expires]
      | some expiry =>
        obtain ⟨ttl, kept, begun, span, lasts⟩ := stored.kept kind userId walletId clock counter expiry
          present expires
        have until_ := kind.lawful.lasting ttl kept (span.trans same)
        simp only [Counter.live, expires, decide_eq_true_eq]
        omega
    simp only [Redis.spend, held]
    simp only [Redis.counter, present, Option.filter_some, live, if_true, le_refl]

theorem Books.later (books : Books tables clock redis requests)
    (dated : ∀ handling ∈ requests, handling.Dated clock) (after : clock ≤ clock') :
    Books tables clock' redis requests := by
  refine ⟨books.stored, ?_, ?_⟩
  · intro kind userId walletId
    by_cases same : kind.window.span clock = kind.window.span clock'
    · rw [← kind.lawful.same same]
      exact (books.counted kind userId walletId).trans (books.stored.spend_later same)
    · have none : total (recordedUnder kind · (kind.window.key userId walletId clock')) requests = 0 := by
        refine total_zero fun handling member => if_neg ?_
        intro recorded
        have past := (dated handling member).recorded_before recorded
        have forward := kind.lawful.forward after
        omega
      rw [none]
      exact books.stored.spend_nonneg _
  · intro userId row listed kind limit limited
    obtain ⟨spans, current⟩ := books.bounded userId row listed kind limit limited
    refine ⟨spans, ?_⟩
    by_cases same : kind.window.span clock = kind.window.span clock'
    · rw [← same]
      exact current
    · have none : total (spent tables userId row kind · (kind.window.span clock')) requests = 0 := by
        refine total_zero fun handling member => if_neg ?_
        intro counts
        have past := (dated handling member).confirmed_before (Bool.and_eq_true_iff.mp counts).2
        have forward := kind.lawful.forward after
        omega
      rw [none]
      omega

theorem awaited_of_over (ended : handling.inFlight = false) : awaited tables userId row handling = 0 := by
  simp [awaited, ended]

theorem spent_unconfirmed (unconfirmed : handling.confirmed = none) :
    spent tables userId row kind handling span = 0 := by
  simp [spent, Handling.confirmedIn, unconfirmed]

theorem recordedUnder_unrecorded {key : String} (unrecorded : handling.recorded = none) :
    recordedUnder kind handling key = 0 := by
  simp [recordedUnder, unrecorded]

theorem seen_or_hidden (tables : Tables) (userId : String) (row : SpendLimit) (kind : Kind) (span : Int)
    (key : String) (handling : Handling) : spent tables userId row kind handling span +
      awaited tables userId row handling ≤
    (if handling.confirmedIn kind span then recordedUnder kind handling key else 0) +
      hidden tables userId row kind handling span key := by
  cases waits : handling.inFlight with
  | true =>
    rw [spent_unconfirmed (inFlight_unconfirmed waits)]
    simp only [awaited, hidden, waits, Bool.and_true, Bool.true_or]
    omega
  | false =>
    rw [awaited_of_over waits]
    cases governed : handling.governedBy tables userId row with
    | false => simp [spent, governed]
    | true =>
      cases counts : handling.confirmedIn kind span with
      | false => simp [spent, counts]
      | true =>
        by_cases under : handling.recorded.map kind.key = some key
        · simp [spent, hidden, recordedUnder, governed, counts, waits, under]
        · simp [spent, hidden, recordedUnder, governed, counts, waits, under]

theorem Books.seen (books : Books tables clock redis requests)
    (dated : ∀ handling ∈ requests, handling.Dated clock) {time : Nat}
    (past : kind.window.span time ≤ kind.window.span clock) :
    (total (fun handling => if handling.confirmedIn kind (kind.window.span clock) then
        recordedUnder kind handling (kind.window.key userId walletId time) else 0) requests : Int) ≤
      redis.spend clock (kind.window.key userId walletId time) := by
  by_cases current : kind.window.span time = kind.window.span clock
  · have whole : total (fun handling => if handling.confirmedIn kind (kind.window.span clock) then
        recordedUnder kind handling (kind.window.key userId walletId time) else 0) requests ≤
        total (recordedUnder kind · (kind.window.key userId walletId time)) requests := by
      refine total_le fun handling _ => ?_
      split
      · exact le_rfl
      · exact Nat.zero_le _
    have counted := books.counted kind userId walletId
    rw [← kind.lawful.same current] at counted
    omega
  · -- What is confirmed now is recorded later still, and not under a key of the past.
    rw [total_zero]
    · exact books.stored.spend_nonneg _
    · intro handling member
      split
      · next counts =>
        refine if_neg ?_
        intro recorded
        obtain ⟨keys, held, same⟩ := Option.map_eq_some_iff.mp recorded
        obtain ⟨since, at_, _, _, times⟩ := (dated handling member).recorded keys held
        obtain ⟨read, later, _, key⟩ := times kind
        have apart := kind.lawful.apart (same.symm.trans key)
        rw [Option.mem_def] at at_
        simp only [Handling.confirmedIn, at_, Option.any_some, decide_eq_true_eq] at counts
        have forward := kind.lawful.forward later
        omega
      · rfl

theorem Books.committed (books : Books tables clock redis requests)
    (dated : ∀ handling ∈ requests, handling.Dated clock) (userId : String) (row : SpendLimit)
    (kind : Kind) {keys : SpendKeys} (read : KeysAt 0 clock keys) :
    (total (spent tables userId row kind · (kind.window.span clock)) requests : Int) +
        total (awaited tables userId row) requests ≤
      redis.spend clock (kind.key keys) +
        total (hidden tables userId row kind · (kind.window.span clock) (kind.key keys)) requests := by
  obtain ⟨userId', walletId', times⟩ := read
  obtain ⟨time, _, until_, key⟩ := times kind
  rw [key]
  have parts : total (fun handling => spent tables userId row kind handling (kind.window.span clock) +
      awaited tables userId row handling) requests ≤ _ :=
    total_le fun handling _ => seen_or_hidden tables userId row kind (kind.window.span clock)
      (kind.window.key userId' walletId' time) handling
  rw [total_add, total_add] at parts
  have seen : (total _ requests : Int) ≤ redis.spend clock (kind.window.key userId' walletId' time) :=
    books.seen dated (kind.lawful.forward until_)
  omega

theorem recordedUnder_same (same : after.request = before.request)
    (recorded : after.recorded = before.recorded) (key : String) :
    recordedUnder kind after key = recordedUnder kind before key := by
  simp only [recordedUnder, recorded, amount_same same]

theorem spent_same (same : after.request = before.request)
    (confirmed : after.confirmed = before.confirmed) (span : Int) :
    spent tables userId row kind after span = spent tables userId row kind before span := by
  unfold spent Handling.governedBy Handling.confirmedIn
  rw [same, confirmed, amount_same same]

theorem awaited_le (same : after.request = before.request)
    (quiet : after.inFlight = true → before.inFlight = true) :
    awaited tables userId row after ≤ awaited tables userId row before := by
  cases flying : after.inFlight with
  | false => simp [awaited, flying]
  | true => simp only [awaited, Handling.governedBy, same, amount_same same, flying, quiet flying, le_refl]

theorem Books.set {id : Nat} {redis' : Redis} (books : Books tables clock redis requests)
    (found : requests[id]? = some before) (stored : Stored redis')
    (counted : ∀ (kind : Kind) key, redis.spend clock key + recordedUnder kind after key ≤
      redis'.spend clock key + recordedUnder kind before key)
    (past : ∀ userId, ∀ row ∈ tables.limits, ∀ (kind : Kind) span, span ≠ kind.window.span clock →
      spent tables userId row kind after span = spent tables userId row kind before span)
    (current : ∀ userId, ∀ row ∈ tables.limits, ∀ (kind : Kind) limit, kind.limit row = some limit →
      (total (spent tables userId row kind · (kind.window.span clock)) requests : Int) +
          total (awaited tables userId row) requests ≤ limit →
        (total (spent tables userId row kind · (kind.window.span clock)) (requests.set id after) : Int) +
          total (awaited tables userId row) (requests.set id after) ≤ limit) :
    Books tables clock redis' (requests.set id after) := by
  refine ⟨stored, ?_, ?_⟩
  · intro kind userId walletId
    have before_ := books.counted kind userId walletId
    have change := total_set (recordedUnder kind · (kind.window.key userId walletId clock)) after found
    have step := counted kind (kind.window.key userId walletId clock)
    omega
  · intro userId row listed kind limit limited
    obtain ⟨spans, within⟩ := books.bounded userId row listed kind limit limited
    have now := current userId row listed kind limit limited within
    refine ⟨?_, now⟩
    intro span
    by_cases same : span = kind.window.span clock
    · subst same
      omega
    · have change := total_set (spent tables userId row kind · span) after found
      have unmoved := past userId row listed kind span same
      have before_ := spans span
      omega

theorem inFlight_of_confirmed {time : Nat} (confirmed : handling.confirmed = some time) :
    handling.inFlight = false := by
  simp [Handling.inFlight, confirmed]

theorem awaited_le_governed : awaited tables userId row handling ≤
    if governing tables handling.request = some (userId, row) then handling.amount else 0 := by
  unfold awaited Handling.governedBy
  split
  · next counts =>
    rw [Bool.and_eq_true, decide_eq_true_eq] at counts
    rw [if_pos counts.1]
  · exact Nat.zero_le _

theorem Books.kept {id : Nat} (books : Books tables clock redis requests)
    (found : requests[id]? = some before) (same : after.request = before.request)
    (confirmed : after.confirmed = before.confirmed) (recorded : after.recorded = before.recorded)
    (quiet : after.inFlight = true → before.inFlight = true) :
    Books tables clock redis (requests.set id after) := by
  refine books.set found books.stored ?_ ?_ ?_
  · intro kind key
    rw [recordedUnder_same same recorded]
  · intro userId row _ kind span _
    exact spent_same same confirmed span
  · intro userId row _ kind limit _ within
    have spends := total_set (spent tables userId row kind · (kind.window.span clock)) after found
    have waits := total_set (awaited tables userId row) after found
    have unchanged : spent tables userId row kind after (kind.window.span clock) = _ :=
      spent_same same confirmed _
    have less : awaited tables userId row after ≤ _ := awaited_le same quiet
    omega

theorem Books.admitted {id : Nat} {system : System}
    (books : Books tables system.clock system.redis system.requests)
    (dated : ∀ handling ∈ system.requests, handling.Dated system.clock)
    (found : system.requests[id]? = some before) (same : after.request = before.request)
    (fresh : before.Fresh) (confirmed : after.confirmed = none) (recorded : after.recorded = none)
    (room : ∀ userId row, governing tables before.request = some (userId, row) → 0 < before.amount →
      ∃ keys, KeysAt 0 system.clock keys ∧ Room tables system userId row keys before.amount) :
    Books tables system.clock system.redis (system.requests.set id after) := by
  refine books.set found books.stored ?_ ?_ ?_
  · intro kind key
    rw [recordedUnder_unrecorded recorded, recordedUnder_unrecorded fresh.2]
  · intro userId row _ kind span _
    rw [spent_unconfirmed confirmed, spent_unconfirmed fresh.1]
  · intro userId row _ kind limit limited within
    have spends := total_set (spent tables userId row kind · (kind.window.span system.clock)) after found
    have waits := total_set (awaited tables userId row) after found
    have most : awaited tables userId row after ≤ _ := awaited_le_governed
    simp only [spent_unconfirmed confirmed, spent_unconfirmed fresh.1] at spends
    rw [same, amount_same same] at most
    by_cases counts : governing tables before.request = some (userId, row) ∧ 0 < before.amount
    · obtain ⟨keys, read, fits⟩ := room userId row counts.1 counts.2
      have committed : _ + (total (awaited tables userId row) system.requests : Int) ≤ _ :=
        books.committed dated userId row kind read
      have left := fits kind limit limited
      rw [if_pos counts.1] at most
      omega
    · have none : awaited tables userId row after = 0 := by
        split at most
        · next governed =>
          have empty : before.amount = 0 := by
            by_contra positive
            exact counts ⟨governed, Nat.pos_of_ne_zero positive⟩
          omega
        · omega
      omega

theorem Books.confirmed {id : Nat} (books : Books tables clock redis requests)
    (found : requests[id]? = some before) (same : after.request = before.request)
    (waited : before.inFlight = true) (confirmed : after.confirmed = some clock)
    (recorded : after.recorded = before.recorded) : Books tables clock redis (requests.set id after) := by
  refine books.set found books.stored ?_ ?_ ?_
  · intro kind key
    rw [recordedUnder_same same recorded]
  · intro userId row _ kind span other
    rw [spent_unconfirmed (inFlight_unconfirmed waited)]
    simp [spent, Handling.confirmedIn, confirmed, Ne.symm other]
  · intro userId row _ kind limit _ within
    have spends := total_set (spent tables userId row kind · (kind.window.span clock)) after found
    have waits := total_set (awaited tables userId row) after found
    -- What was in flight is now spent.
    have moved : spent tables userId row kind after (kind.window.span clock) =
        awaited tables userId row before := by
      simp [spent, awaited, Handling.confirmedIn, confirmed, waited, Handling.governedBy, same,
        amount_same same]
    rw [awaited_of_over (inFlight_of_confirmed confirmed)] at waits
    simp only [spent_unconfirmed (inFlight_unconfirmed waited)] at spends
    omega

theorem Books.recorded {id time : Nat} {keys : SpendKeys} {amount : Int} {complete : Bool} {redis' : Redis}
    (books : Books tables clock redis requests) (found : requests[id]? = some before)
    (same : after.request = before.request) (confirmed : before.confirmed = some time)
    (still : after.confirmed = some time) (unrecorded : before.recorded = none)
    (recorded : after.recorded = if complete then some keys else none) (read : KeysAt time clock keys)
    (covered : before.amount ≤ amount) (ran : luaScript redis clock keys amount = (redis', complete)) :
    Books tables clock redis' (requests.set id after) := by
  have grown := luaScript_grown books.stored (by omega) read ran
  refine books.set found grown.stored ?_ ?_ ?_
  · intro kind key
    rw [recordedUnder_unrecorded unrecorded]
    have grows := grown.grows key
    cases complete with
    | false =>
      rw [recordedUnder_unrecorded recorded]
      omega
    | true =>
      by_cases under : kind.key keys = key
      · have added := grown.added key (under ▸ keys.mem_all kind)
        simp only [recordedUnder, recorded, if_true, Option.map_some, under, amount_same same]
        omega
      · simp only [recordedUnder, recorded, if_true, Option.map_some, Option.some_inj, under, if_false]
        omega
  · intro userId row _ kind span _
    exact spent_same same (still.trans confirmed.symm) span
  · intro userId row _ kind limit _ within
    have spends := total_set (spent tables userId row kind · (kind.window.span clock)) after found
    have waits := total_set (awaited tables userId row) after found
    have unchanged : spent tables userId row kind after (kind.window.span clock) = _ :=
      spent_same same (still.trans confirmed.symm) _
    rw [awaited_of_over (inFlight_of_confirmed still), awaited_of_over (inFlight_of_confirmed confirmed)]
      at waits
    omega

end Totals

end Delego.Wallet.SpendLimits
