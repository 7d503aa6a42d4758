import Delego.Wallet.SpendCounters

set_option autoImplicit false

namespace Delego.Wallet.SpendLimits

open Shared Shared.Text Shared.Calendar

structure SpendSummary where
  daily : String
  weekly : String
  lifetime : String
  deriving DecidableEq

def spendKeys (userId walletId : String) (now : Nat) : SpendKeys where
  dailyKey := getDailyKey userId walletId now
  weeklyKey := getWeeklyKey userId walletId now
  lifetimeKey := getLifetimeKey userId walletId

def recordSpend (redis : Redis) (userId walletId : String) (amountStroops : Int) (now : Nat) :
    Redis × Bool :=
  luaScript redis now (spendKeys userId walletId now) amountStroops

-- The values are read as texts.
def Redis.get (redis : Redis) (now : Int) (key : String) : Option String :=
  (redis.counter now key).map fun counter => toString counter.value

def getSpendSummary (redis : Redis) (userId walletId : String) (now : Nat) : SpendSummary :=
  let keys := spendKeys userId walletId now
  { daily := (truthy (redis.get now keys.dailyKey)).getD "0"
    weekly := (truthy (redis.get now keys.weeklyKey)).getD "0"
    lifetime := (truthy (redis.get now keys.lifetimeKey)).getD "0" }

structure Recording where
  userId : String
  walletId : String
  amount : Int
  time : Nat
  deriving DecidableEq

def recorded : List Recording → Redis
  | [] => fun _ => none
  | recording :: earlier =>
    (recordSpend (recorded earlier) recording.userId recording.walletId recording.amount
      recording.time).1

/-- The sum of what was recorded for the user and the wallet at certain times. -/
def recordedSum (userId walletId : String) (within : Nat → Bool) (recordings : List Recording) : Int :=
  ((recordings.filter fun recording => recording.userId = userId && recording.walletId = walletId &&
    within recording.time).map Recording.amount).sum

structure Recordable (recordings : List Recording) : Prop where
  positive : ∀ recording ∈ recordings, 0 < recording.amount
  clean : ∀ recording ∈ recordings, ':' ∉ recording.walletId.toList
  bounded : ∀ userId walletId, recordedSum userId walletId (fun _ => true) recordings < 2 ^ 63

variable {redis after : Redis} {recordings : List Recording} {userId walletId : String} {now : Nat}
  {amount ttl : Int}

theorem Kind.key_inj {kind : Kind} {userId' walletId' : String} {now' : Nat}
    (clean : ':' ∉ walletId.toList) (clean' : ':' ∉ walletId'.toList)
    (same : kind.window.key userId walletId now = kind.window.key userId' walletId' now') :
    userId = userId' ∧ walletId = walletId' := by
  have owner {mark : String} (front : mark ++ userId ++ ":" ++ walletId = mark ++ userId' ++ ":" ++ walletId') :
      userId = userId' ∧ walletId = walletId' := by
    obtain ⟨users, wallets⟩ := cut_inj rfl front clean clean'
    have chars := congrArg String.toList users
    rw [String.toList_append, String.toList_append] at chars
    exact ⟨String.toList_inj.mp (List.append_cancel_left chars), wallets⟩
  cases kind with
  | daily =>
    obtain ⟨year, date, _, _, key⟩ := dateText_day now
    obtain ⟨year', date', _, _, key'⟩ := dateText_day now'
    simp only [Kind.window, key, key'] at same
    exact owner (cut_inj rfl same (dateText_clean _ _ _) (dateText_clean _ _ _)).1
  | weekly =>
    obtain ⟨year, week, _, _, key⟩ := weekText_day now
    obtain ⟨year', week', _, _, key'⟩ := weekText_day now'
    have clean (year week : Nat) : ':' ∉ (weekText year week).toList :=
      weekText_clean year week (by decide) (by decide) (by decide)
    simp only [Kind.window, key, key'] at same
    exact owner (cut_inj rfl same (clean _ _) (clean _ _)).1
  | lifetime => exact owner same

theorem recordedSum_cons (within : Nat → Bool) (recording : Recording) :
    recordedSum userId walletId within (recording :: recordings) =
      recordedSum userId walletId within recordings +
        if recording.userId = userId ∧ recording.walletId = walletId ∧ within recording.time then
          recording.amount else 0 := by
  unfold recordedSum
  by_cases counts : recording.userId = userId ∧ recording.walletId = walletId ∧ within recording.time
  · rw [if_pos counts, List.filter_cons_of_pos (by simpa [and_assoc] using counts), List.map_cons,
      List.sum_cons, Int.add_comm]
  · rw [if_neg counts, List.filter_cons_of_neg (by simpa [and_assoc] using counts), Int.add_zero]

theorem recordedSum_bounds (positive : ∀ recording ∈ recordings, 0 < recording.amount)
    (within : Nat → Bool) : 0 ≤ recordedSum userId walletId within recordings ∧
      recordedSum userId walletId within recordings ≤
        recordedSum userId walletId (fun _ => true) recordings := by
  induction recordings with
  | nil => exact ⟨le_rfl, le_rfl⟩
  | cons recording earlier ih =>
    obtain ⟨nonneg, below⟩ := ih fun other member => positive other (.tail _ member)
    have amount := positive recording (.head _)
    rw [recordedSum_cons, recordedSum_cons]
    by_cases owner : recording.userId = userId ∧ recording.walletId = walletId
    · simp only [owner, true_and, if_true]
      split
      · omega
      · omega
    · have other (time : Bool) :
          ¬ (recording.userId = userId ∧ recording.walletId = walletId ∧ time = true) :=
        fun counts => owner ⟨counts.1, counts.2.1⟩
      rw [if_neg (other _), if_neg (other _)]
      omega

theorem Recordable.earlier {recording : Recording} (recordable : Recordable (recording :: recordings)) :
    Recordable recordings where
  positive := fun other member => recordable.positive other (.tail _ member)
  clean := fun other member => recordable.clean other (.tail _ member)
  bounded := by
    intro userId walletId
    have bound := recordable.bounded userId walletId
    have amount := recordable.positive recording (.head _)
    rw [recordedSum_cons] at bound
    split at bound
    · omega
    · omega

def Kind.spent (kind : Kind) (userId walletId : String) (now : Nat) (recordings : List Recording) : Int :=
  recordedSum userId walletId (fun time => kind.window.span time = kind.window.span now) recordings

/-- The counters of a kind hold the sums of their spans, and last as long as these. -/
structure Counted (kind : Kind) (redis : Redis) (recordings : List Recording) : Prop where
  missing : ∀ userId walletId now, ':' ∉ walletId.toList →
    redis (kind.window.key userId walletId now) = none → kind.spent userId walletId now recordings = 0
  held : ∀ userId walletId now counter, ':' ∉ walletId.toList →
    redis (kind.window.key userId walletId now) = some counter →
      counter.value = kind.spent userId walletId now recordings ∧
        ∀ time : Nat, kind.window.span time = kind.window.span now → counter.live time = true

theorem Counted.counter (kind : Kind) (counted : Counted kind redis recordings)
    (clean : ':' ∉ walletId.toList) :
    redis.counter now (kind.window.key userId walletId now) =
      redis (kind.window.key userId walletId now) := by
  unfold Redis.counter
  cases held : redis (kind.window.key userId walletId now) with
  | none => rfl
  | some counter =>
    rw [Option.filter_some, if_pos ((counted.held _ _ _ _ clean held).2 now rfl)]

theorem Counted.spend {kind : Kind} (counted : Counted kind redis recordings)
    (clean : ':' ∉ walletId.toList) :
    redis.spend now (kind.window.key userId walletId now) = kind.spent userId walletId now recordings := by
  unfold Redis.spend
  rw [counted.counter kind clean]
  cases held : redis (kind.window.key userId walletId now) with
  | none => exact (counted.missing _ _ _ clean held).symm
  | some counter => exact (counted.held _ _ _ _ clean held).1

theorem Kind.spent_span {kind : Kind} {time : Nat} (span : kind.window.span time = kind.window.span now) :
    kind.spent userId walletId time recordings = kind.spent userId walletId now recordings := by
  unfold Kind.spent
  rw [span]

theorem Counted.recorded {kind : Kind} {recording : Recording} {counter : Counter}
    (counted : Counted kind redis recordings) (clean : ':' ∉ recording.walletId.toList)
    (value : counter.value =
      kind.spent recording.userId recording.walletId recording.time recordings + recording.amount)
    (live : ∀ time : Nat, kind.window.span time = kind.window.span recording.time →
      counter.live time = true) :
    Counted kind (Function.update redis
      (kind.window.key recording.userId recording.walletId recording.time) (some counter))
      (recording :: recordings) := by
  set key := kind.window.key recording.userId recording.walletId recording.time with keyed
  -- Elsewhere the recording does not count.
  have apart {userId walletId : String} {now : Nat} (other : kind.window.key userId walletId now ≠ key) :
      kind.spent userId walletId now (recording :: recordings) =
        kind.spent userId walletId now recordings := by
    unfold Kind.spent
    rw [recordedSum_cons, if_neg, Int.add_zero]
    rintro ⟨rfl, rfl, span⟩
    exact other (kind.lawful.same (of_decide_eq_true span).symm)
  constructor
  · intro userId walletId now clean' missing
    have other : kind.window.key userId walletId now ≠ key := by
      intro same
      rw [same, Function.update_self] at missing
      cases missing
    rw [Function.update_of_ne other] at missing
    rw [apart other]
    exact counted.missing _ _ _ clean' missing
  · intro userId walletId now counter' clean' held
    by_cases same : kind.window.key userId walletId now = key
    · obtain ⟨rfl, rfl⟩ := Kind.key_inj clean' clean (same.trans keyed)
      have span := kind.lawful.apart (same.trans keyed)
      rw [same, Function.update_self] at held
      cases held
      refine ⟨?_, fun time within => live time (within.trans span)⟩
      rw [value, Kind.spent_span span.symm]
      unfold Kind.spent
      rw [recordedSum_cons, if_pos ⟨rfl, rfl, decide_eq_true span.symm⟩]
    · rw [Function.update_of_ne same] at held
      rw [apart same]
      exact counted.held _ _ _ _ clean' held

theorem Counted.elsewhere {kind other : Kind} {counter : Counter} (counted : Counted kind redis recordings)
    (different : other ≠ kind) :
    Counted kind (Function.update redis (other.window.key userId walletId now) (some counter))
      recordings := by
  have apart (userId' walletId' : String) (now' : Nat) :
      kind.window.key userId' walletId' now' ≠ other.window.key userId walletId now :=
    fun same => different (Kind.apart same).symm
  constructor
  · intro userId' walletId' now' clean missing
    rw [Function.update_of_ne (apart _ _ _)] at missing
    exact counted.missing _ _ _ clean missing
  · intro userId' walletId' now' counter' clean held
    rw [Function.update_of_ne (apart _ _ _)] at held
    exact counted.held _ _ _ _ clean held

theorem Counted.lasting {kind : Kind} (counted : Counted kind redis recordings)
    (clean : ':' ∉ walletId.toList) (userId : String) (now : Nat) (value : Int) (time : Nat)
    (span : kind.window.span time = kind.window.span now) :
    Counter.live time ⟨value,
      (redis.counter now (kind.window.key userId walletId now)).bind Counter.expiry⟩ = true := by
  rw [counted.counter kind clean]
  cases held : redis (kind.window.key userId walletId now) with
  | none => rfl
  | some counter => exact (counted.held _ _ _ _ clean held).2 time span

theorem recordWindow_counted {kind : Kind} {recording : Recording} (counted : Counted kind redis recordings)
    (clean : ':' ∉ recording.walletId.toList) (kept : kind.window.ttl = some ttl)
    (amount : fits recording.amount = true)
    (sum : fits (kind.spent recording.userId recording.walletId recording.time recordings +
      recording.amount) = true) :
    ∃ counter, recordWindow redis recording.time
        (kind.window.key recording.userId recording.walletId recording.time) recording.amount ttl =
          some (Function.update redis
            (kind.window.key recording.userId recording.walletId recording.time) (some counter)) ∧
      counter.value =
        kind.spent recording.userId recording.walletId recording.time recordings + recording.amount ∧
      ∀ time : Nat, kind.window.span time = kind.window.span recording.time →
        counter.live time = true := by
  have lasting := counted.lasting clean recording.userId recording.time
    (kind.spent recording.userId recording.walletId recording.time recordings + recording.amount)
  simp only [recordWindow, Redis.incrBy, counted.spend clean, amount, sum, Bool.and_self, if_true]
  split
  · refine ⟨⟨_, some (recording.time + 1000 * ttl)⟩, ?_, rfl, ?_⟩
    · have live := lasting recording.time rfl
      simp only [Redis.expire, Redis.counter, Function.update_self, Option.filter_some] at live ⊢
      rw [if_pos live]
      simp only [Function.update_idem]
    · intro time span
      have before := kind.lawful.lasting ttl kept span.symm
      exact decide_eq_true before
  · exact ⟨_, rfl, rfl, fun time span => lasting time span⟩

theorem recordLifetime_counted {recording : Recording} (counted : Counted .lifetime redis recordings)
    (clean : ':' ∉ recording.walletId.toList) (amount : fits recording.amount = true)
    (sum : fits (Kind.lifetime.spent recording.userId recording.walletId recording.time recordings +
      recording.amount) = true) :
    ∃ value counter, redis.incrBy recording.time
        (Kind.lifetime.window.key recording.userId recording.walletId recording.time) recording.amount =
          some (value, Function.update redis
            (Kind.lifetime.window.key recording.userId recording.walletId recording.time)
              (some counter)) ∧
      counter.value = Kind.lifetime.spent recording.userId recording.walletId recording.time recordings +
        recording.amount ∧
      ∀ time : Nat, Kind.lifetime.window.span time = Kind.lifetime.window.span recording.time →
        counter.live time = true := by
  have lasting := counted.lasting clean recording.userId recording.time
    (Kind.lifetime.spent recording.userId recording.walletId recording.time recordings + recording.amount)
  simp only [Redis.incrBy, counted.spend clean, amount, sum, Bool.and_self, if_true]
  exact ⟨_, _, rfl, rfl, fun time span => lasting time span⟩

theorem Kind.spent_bounds (kind : Kind) (positive : ∀ recording ∈ recordings, 0 < recording.amount)
    (userId walletId : String) (now : Nat) : 0 ≤ kind.spent userId walletId now recordings ∧
      kind.spent userId walletId now recordings ≤
        recordedSum userId walletId (fun _ => true) recordings :=
  recordedSum_bounds positive _

theorem Recordable.fitting {recording : Recording} (recordable : Recordable (recording :: recordings))
    (kind : Kind) : fits recording.amount = true ∧
      fits (kind.spent recording.userId recording.walletId recording.time recordings +
        recording.amount) = true := by
  have positive := recordable.positive recording (.head _)
  obtain ⟨nonneg, below⟩ := kind.spent_bounds recordable.earlier.positive recording.userId
    recording.walletId recording.time
  have total := recordable.bounded recording.userId recording.walletId
  rw [recordedSum_cons, if_pos ⟨rfl, rfl, rfl⟩] at total
  simp only [fits, Bool.and_eq_true, decide_eq_true_eq]
  omega

theorem recordSpend_counted {recording : Recording} (counted : ∀ kind, Counted kind redis recordings)
    (recordable : Recordable (recording :: recordings)) :
    ∃ after, recordSpend redis recording.userId recording.walletId recording.amount recording.time =
        (after, true) ∧ ∀ kind, Counted kind after (recording :: recordings) := by
  have clean := recordable.clean recording (.head _)
  obtain ⟨amount, daySum⟩ := recordable.fitting .daily
  obtain ⟨_, weekSum⟩ := recordable.fitting .weekly
  obtain ⟨_, sum⟩ := recordable.fitting .lifetime
  obtain ⟨day, first, dayValue, dayLive⟩ := recordWindow_counted (counted .daily) clean rfl amount daySum
  set one := Function.update redis
    (Kind.daily.window.key recording.userId recording.walletId recording.time) (some day)
  have weeks : Counted .weekly one recordings := (counted .weekly).elsewhere (by decide)
  have sums : Counted .lifetime one recordings := (counted .lifetime).elsewhere (by decide)
  have days : Counted .daily one (recording :: recordings) :=
    (counted .daily).recorded clean dayValue dayLive
  obtain ⟨week, second, weekValue, weekLive⟩ := recordWindow_counted weeks clean rfl amount weekSum
  set two := Function.update one
    (Kind.weekly.window.key recording.userId recording.walletId recording.time) (some week)
  have sums : Counted .lifetime two recordings := sums.elsewhere (by decide)
  obtain ⟨value, ever, third, everValue, everLive⟩ := recordLifetime_counted sums clean amount sum
  refine ⟨Function.update two (Kind.lifetime.window.key recording.userId recording.walletId
    recording.time) (some ever), ?_, ?_⟩
  · simp only [Kind.window, daily, weekly, lifetime] at first second third
    simp only [recordSpend, luaScript, spendKeys, first, second, third]
    rfl
  · intro kind
    cases kind with
    | daily => exact (days.elsewhere (by decide)).elsewhere (by decide)
    | weekly => exact (weeks.recorded clean weekValue weekLive).elsewhere (by decide)
    | lifetime => exact sums.recorded clean everValue everLive

theorem recorded_counted (recordable : Recordable recordings) (kind : Kind) :
    Counted kind (recorded recordings) recordings := by
  induction recordings generalizing kind with
  | nil => exact ⟨fun _ _ _ _ _ => rfl, nofun⟩
  | cons recording earlier ih =>
    obtain ⟨after, ran, counted⟩ := recordSpend_counted (ih recordable.earlier) recordable
    simp only [recorded, ran]
    exact counted kind

theorem Counted.get {kind : Kind} (counted : Counted kind redis recordings)
    (clean : ':' ∉ walletId.toList) :
    (truthy (redis.get now (kind.window.key userId walletId now))).getD "0" =
      toString (kind.spent userId walletId now recordings) := by
  unfold Redis.get
  rw [counted.counter kind clean]
  cases held : redis (kind.window.key userId walletId now) with
  | none =>
    rw [counted.missing _ _ _ clean held]
    rfl
  | some counter =>
    rw [Option.map_some, truthy_some (Number.toString_ne_empty _), Option.getD_some,
      (counted.held _ _ _ _ clean held).1]

/-- The summary gives the sums of what was recorded in the day, in the week, and ever. -/
theorem spend_summary_exact (recordings : List Recording) (recordable : Recordable recordings)
    (userId walletId : String) (clean : ':' ∉ walletId.toList) (now : Nat) :
    getSpendSummary (recorded recordings) userId walletId now =
      { daily := toString (recordedSum userId walletId
          (fun time => dayOf time = dayOf now) recordings)
        weekly := toString (recordedSum userId walletId
          (fun time => weekOf (dayOf time) = weekOf (dayOf now)) recordings)
        lifetime := toString (recordedSum userId walletId (fun _ => true) recordings) } := by
  have read (kind : Kind) : (truthy ((recorded recordings).get now
      (kind.window.key userId walletId now))).getD "0" =
        toString (kind.spent userId walletId now recordings) :=
    (recorded_counted recordable kind).get clean
  have ever : Kind.lifetime.spent userId walletId now recordings =
      recordedSum userId walletId (fun _ => true) recordings := by
    simp [Kind.spent, Kind.window, lifetime]
  dsimp only [getSpendSummary]
  congr 1
  · exact read .daily
  · exact read .weekly
  · rw [← ever]
    exact read .lifetime

def yearEnd : List Recording :=
  [⟨"ada", "savings", 7, 1735689600000⟩, ⟨"ada", "current", 3, 1735686000000⟩,
    ⟨"ada", "savings", 5, 1735603200000⟩, ⟨"ada", "savings", 2, 1735430400000⟩]

theorem spend_summary_exact_year_end :
    getSpendSummary (recorded yearEnd) "ada" "savings" 1735693200000 = ⟨"7", "12", "14"⟩ := by
  have recordable : Recordable yearEnd := by
    refine ⟨by decide, by decide, ?_⟩
    intro userId walletId
    have none : recordedSum userId walletId (fun _ => true) [] = 0 := rfl
    simp only [yearEnd, recordedSum_cons, none]
    split_ifs <;> decide
  have exact := spend_summary_exact yearEnd recordable "ada" "savings" (by decide) 1735693200000
  exact exact.trans (by decide +kernel)

end Delego.Wallet.SpendLimits
