import Delego.Wallet.SpendWindow

set_option autoImplicit false

namespace Delego.Wallet.SpendLimits

open Shared

inductive Kind where
  | daily
  | weekly
  | lifetime
  deriving DecidableEq

def Kind.window : Kind → Window
  | .daily => SpendLimits.daily
  | .weekly => SpendLimits.weekly
  | .lifetime => SpendLimits.lifetime

def Kind.limit : Kind → SpendLimit → Option Int
  | .daily => SpendLimit.limitDaily
  | .weekly => SpendLimit.limitWeekly
  | .lifetime => SpendLimit.limitLifetime

def Kind.key : Kind → SpendKeys → String
  | .daily => SpendKeys.dailyKey
  | .weekly => SpendKeys.weeklyKey
  | .lifetime => SpendKeys.lifetimeKey

def SpendKeys.all (keys : SpendKeys) : List String := [keys.lifetimeKey, keys.weeklyKey, keys.dailyKey]

theorem Kind.lawful (kind : Kind) : kind.window.Lawful := by
  cases kind with
  | daily => exact daily_lawful
  | weekly => exact weekly_lawful
  | lifetime => exact lifetime_lawful

theorem Kind.letter (kind : Kind) (userId walletId : String) (time : Nat) :
    (kind.window.key userId walletId time).toList[6]? =
      some (match kind with | .daily => 'd' | .weekly => 'w' | .lifetime => 'l') := by
  cases kind <;>
    dsimp only [Kind.window, SpendLimits.daily, SpendLimits.weekly, SpendLimits.lifetime, getDailyKey,
      getWeeklyKey, getLifetimeKey] <;>
    simp [String.toList_append]

theorem Kind.apart {kind kind' : Kind} {userId walletId userId' walletId' : String} {time time' : Nat}
    (same : kind.window.key userId walletId time = kind'.window.key userId' walletId' time') :
    kind = kind' := by
  have letters := kind.letter userId walletId time
  rw [same, kind'.letter] at letters
  cases kind <;> cases kind' <;> simp at letters ⊢

def KeysAt (since now : Nat) (keys : SpendKeys) : Prop :=
  ∃ userId walletId, ∀ kind : Kind, ∃ time, since ≤ time ∧ time ≤ now ∧
    kind.key keys = kind.window.key userId walletId time

structure Stored (redis : Redis) : Prop where
  nonneg : ∀ key counter, redis key = some counter → 0 ≤ counter.value
  kept : ∀ (kind : Kind) userId walletId time counter expiry,
    redis (kind.window.key userId walletId time) = some counter → counter.expiry = some expiry →
      ∃ ttl ∈ kind.window.ttl, ∃ begun : Nat, kind.window.span begun = kind.window.span time ∧
        begun + 1000 * ttl ≤ expiry

variable {redis after : Redis} {now : Nat} {key other : String} {amount ttl : Int}

theorem Redis.counter_eq_some {counter : Counter} (held : redis.counter now key = some counter) :
    redis key = some counter ∧ counter.live now = true := by
  simpa [Redis.counter, Option.filter_eq_some_iff] using held

theorem Stored.spend_nonneg (stored : Stored redis) (key : String) : 0 ≤ redis.spend now key := by
  unfold Redis.spend
  cases held : redis.counter now key with
  | none => exact le_rfl
  | some counter => exact stored.nonneg key counter (Redis.counter_eq_some held).1

theorem Redis.incrBy_eq_some {value : Int} (ran : redis.incrBy now key amount = some (value, after)) :
    value = redis.spend now key + amount ∧ after = Function.update redis key
      (some ⟨redis.spend now key + amount, (redis.counter now key).bind Counter.expiry⟩) := by
  unfold Redis.incrBy at ran
  simp only at ran
  split at ran
  · cases ran
    exact ⟨rfl, rfl⟩
  · cases ran

theorem Redis.incrBy_spend {value : Int} (ran : redis.incrBy now key amount = some (value, after)) :
    after.spend now other = redis.spend now other + if other = key then amount else 0 := by
  obtain ⟨_, rfl⟩ := Redis.incrBy_eq_some ran
  by_cases same : other = key
  · subst same
    have live : Counter.live now ⟨redis.spend now other + amount,
        (redis.counter now other).bind Counter.expiry⟩ = true := by
      cases held : redis.counter now other with
      | none => rfl
      | some counter => exact (Redis.counter_eq_some held).2
    rw [if_pos rfl, Redis.spend, Redis.counter, Function.update_self, Option.filter_some, if_pos live]
  · simp only [Redis.spend, Redis.counter, Function.update_of_ne same, if_neg same, add_zero]

theorem Redis.incrBy_stored {value : Int} (stored : Stored redis) (positive : 0 ≤ amount)
    (ran : redis.incrBy now key amount = some (value, after)) : Stored after := by
  obtain ⟨_, rfl⟩ := Redis.incrBy_eq_some ran
  refine ⟨?_, ?_⟩
  · intro other counter held
    by_cases same : other = key
    · rw [same, Function.update_self] at held
      cases held
      have before : 0 ≤ redis.spend now key := stored.spend_nonneg key
      simp only
      omega
    · rw [Function.update_of_ne same] at held
      exact stored.nonneg other counter held
  · intro kind userId walletId time counter expiry held expires
    by_cases same : kind.window.key userId walletId time = key
    · rw [same, Function.update_self] at held
      cases held
      cases found : redis.counter now key with
      | none => simp [found] at expires
      | some old =>
        simp only [found, Option.bind_some] at expires
        exact stored.kept kind userId walletId time old expiry
          (same ▸ (Redis.counter_eq_some found).1) expires
    · rw [Function.update_of_ne same] at held
      exact stored.kept kind userId walletId time counter expiry held expires

theorem Redis.expire_spend (positive : 0 < ttl) :
    (redis.expire now key ttl).spend now other = redis.spend now other := by
  unfold Redis.expire
  cases held : redis.counter now key with
  | none => rfl
  | some counter =>
    by_cases same : other = key
    · subst same
      have live : Counter.live now ⟨counter.value, some (now + 1000 * ttl)⟩ = true := by
        simp only [Counter.live, decide_eq_true_eq]
        omega
      have unchanged : redis.spend now other = counter.value := by simp only [Redis.spend, held]
      rw [unchanged]
      simp only [Redis.spend, Redis.counter, Function.update_self, Option.filter_some, live, if_true]
    · simp only [Redis.spend, Redis.counter, Function.update_of_ne same]

theorem Redis.expire_stored (stored : Stored redis) (kind : Kind) {userId walletId : String}
    {begun : Nat} (read : begun ≤ now) (kept : kind.window.ttl = some ttl) :
    Stored (redis.expire now (kind.window.key userId walletId begun) ttl) := by
  unfold Redis.expire
  cases held : redis.counter now (kind.window.key userId walletId begun) with
  | none => exact stored
  | some counter =>
    dsimp only
    refine ⟨?_, ?_⟩
    · intro other counter' held'
      by_cases same : other = kind.window.key userId walletId begun
      · rw [same, Function.update_self] at held'
        cases held'
        exact stored.nonneg _ counter (Redis.counter_eq_some held).1
      · rw [Function.update_of_ne same] at held'
        exact stored.nonneg other counter' held'
    · intro kind' userId' walletId' time counter' expiry held' expires
      by_cases same : kind'.window.key userId' walletId' time = kind.window.key userId walletId begun
      · obtain rfl := Kind.apart same
        rw [same, Function.update_self] at held'
        cases held'
        cases expires
        exact ⟨ttl, kept, begun, kind'.lawful.apart same.symm, by omega⟩
      · rw [Function.update_of_ne same] at held'
        exact stored.kept kind' userId' walletId' time counter' expiry held' expires

structure Grown (redis after : Redis) (now : Nat) (amount : Int) (keys : List String) : Prop where
  stored : Stored after
  grows : ∀ key, redis.spend now key ≤ after.spend now key
  added : ∀ key ∈ keys, redis.spend now key + amount ≤ after.spend now key

theorem Grown.refl (stored : Stored redis) : Grown redis redis now amount [] :=
  ⟨stored, fun _ => le_rfl, fun _ none => absurd none List.not_mem_nil⟩

theorem Grown.trans {middle : Redis} {keys : List String} (first : Grown redis middle now amount keys)
    (second : Grown middle after now amount [key]) : Grown redis after now amount (key :: keys) := by
  refine ⟨second.stored, fun key => (first.grows key).trans (second.grows key), ?_⟩
  intro other member
  rcases List.mem_cons.mp member with rfl | earlier
  · have before := first.grows other
    have added := second.added other (List.mem_singleton_self _)
    omega
  · exact (first.added other earlier).trans (second.grows other)

theorem incrBy_grown {value : Int} (stored : Stored redis) (positive : 0 ≤ amount)
    (ran : redis.incrBy now key amount = some (value, after)) : Grown redis after now amount [key] := by
  refine ⟨Redis.incrBy_stored stored positive ran, ?_, ?_⟩
  · intro other
    rw [Redis.incrBy_spend ran]
    split <;> omega
  · intro other member
    rw [Redis.incrBy_spend ran, if_pos (List.mem_singleton.mp member)]

theorem recordWindow_grown (stored : Stored redis) (positive : 0 ≤ amount) (kind : Kind)
    {userId walletId : String} {begun : Nat} (same : key = kind.window.key userId walletId begun)
    (read : begun ≤ now) (kept : kind.window.ttl = some ttl) (lasts : 0 < ttl)
    (ran : recordWindow redis now key amount ttl = some after) : Grown redis after now amount [key] := by
  subst same
  unfold recordWindow at ran
  cases incremented : redis.incrBy now (kind.window.key userId walletId begun) amount with
  | none => simp [incremented] at ran
  | some result =>
    obtain ⟨value, middle⟩ := result
    have grown := incrBy_grown stored positive incremented
    simp only [incremented] at ran
    split at ran
    · cases ran
      refine ⟨Redis.expire_stored grown.stored kind read kept, ?_, ?_⟩
      · intro key
        rw [Redis.expire_spend lasts]
        exact grown.grows key
      · intro key member
        rw [Redis.expire_spend lasts]
        exact grown.added key member
    · cases ran
      exact grown

/-- The script adds the amount under all three keys if it runs to its end. -/
theorem luaScript_grown {since : Nat} {keys : SpendKeys} {complete : Bool} (stored : Stored redis)
    (positive : 0 ≤ amount) (read : KeysAt since now keys)
    (ran : luaScript redis now keys amount = (after, complete)) :
    Grown redis after now amount (if complete then keys.all else []) := by
  obtain ⟨userId, walletId, times⟩ := read
  obtain ⟨day, _, dayRead, dayKey⟩ := times .daily
  obtain ⟨week, _, weekRead, weekKey⟩ := times .weekly
  unfold luaScript at ran
  cases first : recordWindow redis now keys.dailyKey amount dailyTtl with
  | none =>
    simp only [first] at ran
    cases ran
    exact .refl stored
  | some middle =>
    have one := recordWindow_grown stored positive .daily dayKey dayRead rfl (by decide) first
    simp only [first] at ran
    cases second : recordWindow middle now keys.weeklyKey amount weeklyTtl with
    | none =>
      simp only [second] at ran
      cases ran
      exact ⟨one.stored, one.grows, fun _ none => absurd none List.not_mem_nil⟩
    | some later =>
      have two := one.trans
        (recordWindow_grown one.stored positive .weekly weekKey weekRead rfl (by decide) second)
      simp only [second] at ran
      cases third : later.incrBy now keys.lifetimeKey amount with
      | none =>
        simp only [third] at ran
        cases ran
        exact ⟨two.stored, two.grows, fun _ none => absurd none List.not_mem_nil⟩
      | some result =>
        simp only [third] at ran
        cases ran
        exact two.trans (incrBy_grown two.stored positive third)

theorem SpendKeys.mem_all (keys : SpendKeys) (kind : Kind) : kind.key keys ∈ keys.all := by
  cases kind <;> simp [SpendKeys.all, Kind.key]

end Delego.Wallet.SpendLimits
