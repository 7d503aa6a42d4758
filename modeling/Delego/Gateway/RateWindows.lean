import Delego.Shared.Run
import Delego.Shared.Total
import Delego.Gateway.RateLimiter

set_option autoImplicit false

namespace Delego.Gateway.RateLimiter

open Shared Delego.Wallet.SpendLimits

/-- Where a call of `checkRateLimit` stands: its key is built from a reading of the clock, and it waits to be
counted; it was the first and waits for the expiry; or it has returned. -/
inductive Stage where
  | counting (time : Nat)
  | expiring (time : Nat)
  | returned (result : RateLimitResult)

structure Checks where
  clock : Nat
  redis : Redis
  calls : List Stage

-- The count comes any time after the clock has been read, and the expiry any time after the count.
inductive CheckInput where
  | elapse (time : Nat)
  | request
  | count (id : Nat) (answered : Bool)
  | expire (id : Nat)

def countedAt (limiter : Limiter) (checks : Checks) (time : Nat) (answered : Bool) : Option (Nat × Redis) :=
  if answered then
    (checks.redis.incrBy checks.clock (limiter.key (limiter.windowAt time)) 1).map
      fun (count, redis) => (count.toNat, redis)
  else none

/-- A decision is about the request at the time at which it read the clock. -/
def checkStep (limiter : Limiter) (checks : Checks) : CheckInput → Option Decision × Checks
  | .elapse time => (none, { checks with clock := checks.clock + time })
  | .request => (none, { checks with calls := checks.calls ++ [.counting checks.clock] })
  | .count id answered =>
    match checks.calls[id]? with
    | some (.counting time) =>
      let (count, redis) := (countedAt limiter checks time answered).getD (1, checks.redis)
      let stage := if count = 1 then .expiring time else .returned (limiter.result count checks.clock)
      (some ⟨time, limiter.allows count⟩,
        { checks with redis, calls := checks.calls.set id stage })
    | _ => (none, checks)
  | .expire id =>
    match checks.calls[id]? with
    | some (.expiring time) =>
      (none,
        { checks with
          redis := checks.redis.expire checks.clock (limiter.key (limiter.windowAt time))
            (expirySeconds limiter.config.windowMs)
          calls := checks.calls.set id (.returned (limiter.result 1 checks.clock)) })
    | _ => (none, checks)

variable (limiter : Limiter)

def final (inputs : List CheckInput) : Checks := Run.final (checkStep limiter) ⟨0, fun _ => none, []⟩ inputs

def history (inputs : List CheckInput) : List (Receipt Checks CheckInput (Option Decision)) :=
  Run.history (checkStep limiter) ⟨0, fun _ => none, []⟩ inputs

def allowedIn (within : Nat → Bool) (past : List (Receipt Checks CheckInput (Option Decision))) : Nat :=
  ((past.filterMap Receipt.output).filter fun decision => decision.allowed && within decision.time).length

def Answered (checks : Checks) : CheckInput → Prop
  | .count id answered => ∀ time, checks.calls[id]? = some (.counting time) →
    countedAt limiter checks time answered ≠ none
  | _ => True

/-- A count that comes after the window that its key was built for finds the key there still, if anything
has been counted for it. -/
def Timely (checks : Checks) : CheckInput → Prop
  | .count id _ => ∀ time, checks.calls[id]? = some (.counting time) →
    limiter.windowAt time < limiter.windowAt checks.clock →
      ∀ counter, checks.redis (limiter.key (limiter.windowAt time)) = some counter →
        counter.live checks.clock = true
  | _ => True

structure Bounded (inputs : List CheckInput) : Prop where
  window : ∀ windowKey, allowedIn (fun time => limiter.windowAt time = windowKey)
    (history limiter inputs) ≤ limiter.config.maxRequests
  interval : ∀ start, allowedIn (fun time => start ≤ time && time ≤ start + limiter.config.windowMs)
    (history limiter inputs) ≤ 2 * limiter.config.maxRequests

def Stage.call (limiter : Limiter) : Stage → Option Call
  | .counting _ => none
  | .expiring time => some (.expiring (limiter.key (limiter.windowAt time)))
  | .returned result => some (.returned result)

theorem request_counted (checks : Checks) (calls : List Call) (answered : Bool) :
    let counted := checkStep limiter (checkStep limiter checks .request).2 (.count checks.calls.length answered)
    let decided := step limiter ⟨checks.clock, checks.redis, calls⟩ (.request answered)
    counted.1 = decided.1 ∧ counted.2.clock = decided.2.clock ∧ counted.2.redis = decided.2.redis ∧
      ∃ stage, counted.2.calls = checks.calls ++ [stage] ∧
        decided.2.calls = calls ++ (stage.call limiter).toList := by
  have found : (checks.calls ++ [Stage.counting checks.clock])[checks.calls.length]? =
      some (.counting checks.clock) := by simp
  have replaced (stage : Stage) : (checks.calls ++ [Stage.counting checks.clock]).set checks.calls.length stage =
      checks.calls ++ [stage] := by simp
  have same : countedAt limiter ⟨checks.clock, checks.redis, checks.calls ++ [.counting checks.clock]⟩
      checks.clock answered = RateLimiter.counted limiter ⟨checks.clock, checks.redis, calls⟩ answered := rfl
  cases ran : RateLimiter.counted limiter ⟨checks.clock, checks.redis, calls⟩ answered with
  | none =>
    rw [ran] at same
    simp only [checkStep, found, same, step, ran, Option.getD_none, replaced, if_true, true_and]
    exact ⟨_, rfl, rfl⟩
  | some result =>
    rw [ran] at same
    simp only [checkStep, found, same, step, ran, Option.getD_some, replaced, true_and]
    refine ⟨_, rfl, ?_⟩
    split <;> rfl

section Windows

variable {limiter : Limiter} {past : List (Receipt Checks CheckInput (Option Decision))}
  {receipt : Receipt Checks CheckInput (Option Decision)} {checks : Checks} {windowKey : Nat} {redis : Redis}

def decidedIn (limiter : Limiter) (windowKey : Nat) (past : List (Receipt Checks CheckInput (Option Decision))) :
    Nat :=
  ((past.filterMap Receipt.output).filter fun decision =>
    limiter.windowAt decision.time = windowKey).length

structure Counting (limiter : Limiter) (past : List (Receipt Checks CheckInput (Option Decision)))
    (redis : Redis) : Prop where
  missing : ∀ windowKey, redis (limiter.key windowKey) = none → decidedIn limiter windowKey past = 0
  held : ∀ windowKey counter, redis (limiter.key windowKey) = some counter →
    counter.value = decidedIn limiter windowKey past ∧
      ∀ time : Nat, limiter.windowAt time = windowKey → counter.live time = true

structure Within (limiter : Limiter) (past : List (Receipt Checks CheckInput (Option Decision)))
    (checks : Checks) : Prop where
  counting : Counting limiter past checks.redis
  fewer : ∀ windowKey, allowedIn (fun time => limiter.windowAt time = windowKey) past ≤
    decidedIn limiter windowKey past
  limited : ∀ windowKey, allowedIn (fun time => limiter.windowAt time = windowKey) past ≤
    limiter.config.maxRequests
  begun : ∀ time, .counting time ∈ checks.calls ∨ .expiring time ∈ checks.calls → time ≤ checks.clock

theorem Limiter.key_inj {windowKey' : Nat} (same : limiter.key windowKey = limiter.key windowKey') :
    windowKey = windowKey' := by
  have digits : toString (windowKey : Int) = toString (windowKey' : Int) :=
    (String.append_right_inj _).mp same
  have values := congrArg Number.bigInt digits
  rw [Number.bigInt_toString, Number.bigInt_toString] at values
  exact Int.ofNat_inj.mp (Option.some.inj values)

theorem lasting {time begun : Nat} (within : limiter.windowAt time ≤ limiter.windowAt begun) :
    (time : Int) < begun + 1000 * (expirySeconds limiter.config.windowMs : Int) := by
  have positive := limiter.config.positive
  have upper := Nat.lt_mul_div_succ time positive
  have lower := Nat.mul_div_le begun limiter.config.windowMs
  have scaled := Nat.mul_le_mul_left limiter.config.windowMs within
  simp only [Limiter.windowAt] at scaled
  simp only [Nat.mul_add, Nat.mul_one] at upper
  simp only [expirySeconds]
  omega

theorem Counting.spend {clock : Nat} (counting : Counting limiter past redis)
    (live : ∀ counter, redis (limiter.key windowKey) = some counter → counter.live clock = true) :
    redis.spend clock (limiter.key windowKey) = decidedIn limiter windowKey past := by
  unfold Redis.spend Redis.counter
  cases stored : redis (limiter.key windowKey) with
  | none => simp [counting.missing _ stored]
  | some counter =>
    rw [Option.filter_some, if_pos (live counter stored)]
    exact (counting.held _ _ stored).1

theorem decidedIn_none (silent : receipt.output = none) :
    decidedIn limiter windowKey (receipt :: past) = decidedIn limiter windowKey past := by
  simp [decidedIn, silent]

theorem decidedIn_some {decision : Decision} (told : receipt.output = some decision) :
    decidedIn limiter windowKey (receipt :: past) = decidedIn limiter windowKey past +
      if limiter.windowAt decision.time = windowKey then 1 else 0 := by
  by_cases here : limiter.windowAt decision.time = windowKey
  · simp [decidedIn, told, here]
  · simp [decidedIn, told, here]

theorem allowedIn_none {within : Nat → Bool} (silent : receipt.output = none) :
    allowedIn within (receipt :: past) = allowedIn within past := by
  simp [allowedIn, silent]

theorem allowedIn_some {within : Nat → Bool} {decision : Decision} (told : receipt.output = some decision) :
    allowedIn within (receipt :: past) = allowedIn within past +
      if decision.allowed && within decision.time then 1 else 0 := by
  cases here : decision.allowed && within decision.time with
  | true => simp [allowedIn, told, here]
  | false => simp [allowedIn, told, here]

theorem Within.silent {after : Checks} (within : Within limiter past checks) (silent : receipt.output = none)
    (counting : Counting limiter past after.redis)
    (begun : ∀ time, .counting time ∈ after.calls ∨ .expiring time ∈ after.calls → time ≤ after.clock) :
    Within limiter (receipt :: past) after := by
  refine ⟨⟨?_, ?_⟩, ?_, ?_, begun⟩
  · intro windowKey missing
    rw [decidedIn_none silent]
    exact counting.missing windowKey missing
  · intro windowKey counter held
    rw [decidedIn_none silent]
    exact counting.held windowKey counter held
  · intro windowKey
    rw [allowedIn_none silent, decidedIn_none silent]
    exact within.fewer windowKey
  · intro windowKey
    rw [allowedIn_none silent]
    exact within.limited windowKey

theorem Counting.expire {clock : Nat} (counting : Counting limiter past redis)
    (begun : windowKey ≤ limiter.windowAt clock) :
    Counting limiter past (redis.expire clock (limiter.key windowKey)
      (expirySeconds limiter.config.windowMs)) := by
  unfold Redis.expire
  cases stored : redis.counter clock (limiter.key windowKey) with
  | none => exact counting
  | some counter =>
    obtain ⟨stored, _⟩ := Redis.counter_eq_some stored
    dsimp only
    constructor
    · intro other missing
      by_cases same : limiter.key other = limiter.key windowKey
      · rw [same, Function.update_self] at missing
        cases missing
      · rw [Function.update_of_ne same] at missing
        exact counting.missing other missing
    · intro other counter' held
      by_cases same : limiter.key other = limiter.key windowKey
      · obtain rfl := Limiter.key_inj same
        rw [Function.update_self] at held
        cases held
        refine ⟨(counting.held _ _ stored).1, ?_⟩
        rintro time rfl
        exact decide_eq_true (lasting begun)
      · rw [Function.update_of_ne same] at held
        exact counting.held other counter' held

theorem Within.live {time counterId : Nat} {answered : Bool} (within : Within limiter past checks)
    (found : checks.calls[counterId]? = some (.counting time))
    (timely : Timely limiter checks (.count counterId answered)) {counter : Counter}
    (stored : checks.redis (limiter.key (limiter.windowAt time)) = some counter) :
    counter.live checks.clock = true := by
  have begun := within.begun time (.inl (List.mem_of_getElem? found))
  rcases Nat.lt_or_eq_of_le (limiter.windowAt_le begun) with later | same
  · exact timely time found later counter stored
  · exact (within.counting.held _ _ stored).2 checks.clock same.symm

theorem Counting.request {clock : Nat} {value : Int} {after : Redis} (counting : Counting limiter past redis)
    (decision : Decision)
    (live : ∀ counter, redis (limiter.key (limiter.windowAt decision.time)) = some counter →
      counter.live clock = true)
    (ran : redis.incrBy clock (limiter.key (limiter.windowAt decision.time)) 1 = some (value, after))
    (told : receipt.output = some decision) :
    value = decidedIn limiter (limiter.windowAt decision.time) past + 1 ∧
      Counting limiter (receipt :: past) after := by
  obtain ⟨rfl, rfl⟩ := Redis.incrBy_eq_some ran
  rw [counting.spend live]
  refine ⟨rfl, ?_, ?_⟩
  · intro windowKey missing
    by_cases same : limiter.key windowKey = limiter.key (limiter.windowAt decision.time)
    · rw [same, Function.update_self] at missing
      cases missing
    · have other : limiter.windowAt decision.time ≠ windowKey := by
        rintro rfl
        exact same rfl
      rw [Function.update_of_ne same] at missing
      rw [decidedIn_some told, if_neg other, counting.missing windowKey missing]
  · intro windowKey counter held
    by_cases same : limiter.key windowKey = limiter.key (limiter.windowAt decision.time)
    · obtain rfl := Limiter.key_inj same
      rw [Function.update_self] at held
      cases held
      refine ⟨?_, ?_⟩
      · rw [decidedIn_some told, if_pos rfl]
        rfl
      · intro later here
        cases stored : redis.counter clock (limiter.key (limiter.windowAt decision.time)) with
        | none => rfl
        | some old =>
          exact (counting.held _ _ (Redis.counter_eq_some stored).1).2 later here
    · have other : limiter.windowAt decision.time ≠ windowKey := by
        rintro rfl
        exact same rfl
      rw [Function.update_of_ne same] at held
      rw [decidedIn_some told, if_neg other]
      exact counting.held windowKey counter held

theorem Within.request {value : Int} {time : Nat} {calls : List Stage} (within : Within limiter past checks)
    (live : ∀ counter, checks.redis (limiter.key (limiter.windowAt time)) = some counter →
      counter.live checks.clock = true)
    (ran : checks.redis.incrBy checks.clock (limiter.key (limiter.windowAt time)) 1 = some (value, redis))
    (told : receipt.output = some ⟨time, limiter.allows value.toNat⟩)
    (begun : ∀ time, .counting time ∈ calls ∨ .expiring time ∈ calls → time ≤ checks.clock) :
    Within limiter (receipt :: past) { checks with redis, calls } := by
  obtain ⟨number, counting⟩ := within.counting.request ⟨time, limiter.allows value.toNat⟩ live ran told
  dsimp only at number
  refine ⟨counting, ?_, ?_, begun⟩
  · intro windowKey
    have before := within.fewer windowKey
    rw [allowedIn_some told, decidedIn_some told]
    cases limiter.allows value.toNat with
    | false =>
      simp only [Bool.false_and, Bool.false_eq_true, if_false]
      omega
    | true =>
      simp only [Bool.true_and, decide_eq_true_eq]
      omega
  · intro windowKey
    have before := within.limited windowKey
    have fewer := within.fewer windowKey
    rw [allowedIn_some told]
    cases allowed : limiter.allows value.toNat with
    | false => simpa using before
    | true =>
      -- The window's counter has not gone past the limit.
      have room : value.toNat ≤ limiter.config.maxRequests := of_decide_eq_true allowed
      simp only [Bool.true_and, decide_eq_true_eq]
      split
      · next here =>
        subst here
        omega
      · exact before

theorem count_within {id : Nat} {answered : Bool} (within : Within limiter past checks)
    (reached : Answered limiter checks (.count id answered))
    (timely : Timely limiter checks (.count id answered)) :
    Within limiter (Run.observe (checkStep limiter) checks (.count id answered) :: past)
      (checkStep limiter checks (.count id answered)).2 := by
  cases found : checks.calls[id]? with
  | none =>
    simp only [Run.observe, checkStep, found]
    exact within.silent rfl within.counting within.begun
  | some stage =>
    cases stage with
    | expiring | returned =>
      simp only [Run.observe, checkStep, found]
      exact within.silent rfl within.counting within.begun
    | counting time =>
      have counts := reached time found
      cases answered with
      | false => exact absurd rfl counts
      | true =>
        cases ran : checks.redis.incrBy checks.clock (limiter.key (limiter.windowAt time)) 1 with
        | none => exact absurd (by simp [countedAt, ran]) counts
        | some result =>
          obtain ⟨value, redis⟩ := result
          have count : countedAt limiter checks time true = some (value.toNat, redis) := by
            simp [countedAt, ran]
          simp only [Run.observe, checkStep, found, count, Option.getD_some]
          refine within.request (fun _ => within.live found timely) ran rfl ?_
          intro other waiting
          have own := within.begun time (.inl (List.mem_of_getElem? found))
          rcases waiting with counting | expiring
          · rcases List.mem_or_eq_of_mem_set counting with old | new
            · exact within.begun other (.inl old)
            · split at new <;> cases new
          · rcases List.mem_or_eq_of_mem_set expiring with old | new
            · exact within.begun other (.inr old)
            · split at new
              · cases new
                exact own
              · cases new

theorem step_within (input : CheckInput) (within : Within limiter past checks)
    (reached : Answered limiter checks input) (timely : Timely limiter checks input) :
    Within limiter (Run.observe (checkStep limiter) checks input :: past)
      (checkStep limiter checks input).2 := by
  cases input with
  | elapse time =>
    refine within.silent rfl within.counting ?_
    intro other waiting
    exact (within.begun other waiting).trans (Nat.le_add_right _ _)
  | request =>
    refine within.silent rfl within.counting ?_
    intro other waiting
    rcases waiting with counting | expiring
    · rcases List.mem_append.mp counting with old | new
      · exact within.begun other (.inl old)
      · cases List.mem_singleton.mp new
        exact le_rfl
    · rcases List.mem_append.mp expiring with old | new
      · exact within.begun other (.inr old)
      · cases List.mem_singleton.mp new
  | count id answered => exact count_within within reached timely
  | expire id =>
    cases found : checks.calls[id]? with
    | none =>
      simp only [Run.observe, checkStep, found]
      exact within.silent rfl within.counting within.begun
    | some stage =>
      cases stage with
      | counting | returned =>
        simp only [Run.observe, checkStep, found]
        exact within.silent rfl within.counting within.begun
      | expiring time =>
        have begun := within.begun time (.inr (List.mem_of_getElem? found))
        simp only [Run.observe, checkStep, found]
        refine within.silent rfl (within.counting.expire (limiter.windowAt_le begun)) ?_
        intro other waiting
        rcases waiting with counting | expiring
        · rcases List.mem_or_eq_of_mem_set counting with old | new
          · exact within.begun other (.inl old)
          · cases new
        · rcases List.mem_or_eq_of_mem_set expiring with old | new
          · exact within.begun other (.inr old)
          · cases new

end Windows

theorem allowedIn_cover {within one other : Nat → Bool} (past : List (Receipt Checks CheckInput (Option Decision)))
    (cover : ∀ time, within time = true → one time = true ∨ other time = true) :
    allowedIn within past ≤ allowedIn one past + allowedIn other past := by
  simp only [allowedIn, ← total_filter]
  rw [← total_add]
  refine total_le fun decision _ => ?_
  have covered := cover decision.time
  cases decision.allowed with
  | false => simp
  | true =>
    cases here : within decision.time with
    | false => simp
    | true =>
      rcases covered here with first | second
      · simp [first]
      · simp [second]

/-- Of the requests of each window at most `maxRequests` are allowed, and at most twice as many in any time of
a window's length, in every run in which no count comes after the key of its window has expired. -/
theorem rate_limit_bounded (limiter : Limiter) (inputs : List CheckInput)
    (reached : ∀ input older, input :: older <:+ inputs → Answered limiter (final limiter older) input)
    (timely : ∀ input older, input :: older <:+ inputs → Timely limiter (final limiter older) input) :
    Bounded limiter inputs := by
  have within : ∀ older, older <:+ inputs →
      Within limiter (history limiter older) (final limiter older) := by
    refine Run.along ?_ ?_
    · refine ⟨⟨fun _ _ => rfl, ?_⟩, fun _ => le_rfl, fun _ => Nat.zero_le _, ?_⟩
      · intro windowKey counter missing
        cases missing
      · rintro time (waiting | waiting) <;> cases waiting
    · intro input older suffix within
      exact step_within input within (reached input older suffix) (timely input older suffix)
  have limited := (within inputs List.suffix_rfl).limited
  refine ⟨limited, ?_⟩
  intro start
  have positive := limiter.config.positive
  have first := limited (limiter.windowAt start)
  have second := limited (limiter.windowAt start + 1)
  have cover : ∀ time, (start ≤ time && time ≤ start + limiter.config.windowMs) = true →
      decide (limiter.windowAt time = limiter.windowAt start) = true ∨
        decide (limiter.windowAt time = limiter.windowAt start + 1) = true := by
    intro time inside
    simp only [Bool.and_eq_true, decide_eq_true_eq] at inside ⊢
    have lower := limiter.windowAt_le inside.1
    have upper := limiter.windowAt_le inside.2
    have next : limiter.windowAt (start + limiter.config.windowMs) = limiter.windowAt start + 1 :=
      Nat.add_div_right start positive
    omega
  have covered := allowedIn_cover (history limiter inputs) cover
  omega

def sampleLimiter : Limiter where
  identifier := "203.0.113.7"
  endpoint := "POST:/api/v1/auth/login"
  overrideConfig := some ⟨1, 1500, by decide⟩

-- Two requests of one window, the second of which is counted in the next, but before the key expires; and
-- then one of that window.
def lateCount : List CheckInput :=
  [ .elapse 1400, .request, .request, .count 0 true, .expire 0, .elapse 200, .count 1 true, .request,
    .count 2 true, .expire 2 ].reverse

theorem rate_limit_bounded_sample : Bounded sampleLimiter lateCount ∧
    allowedIn (fun _ => true) (history sampleLimiter lateCount) = 2 := by
  refine ⟨rate_limit_bounded sampleLimiter lateCount ?_ ?_, by decide +kernel⟩
  · intro input older within
    simp only [lateCount, List.reverse_cons, List.reverse_nil, List.nil_append, List.cons_append,
      List.suffix_cons_iff, List.suffix_nil, List.cons.injEq, reduceCtorEq, or_false] at within
    rcases within with ⟨rfl, rfl⟩ | ⟨rfl, rfl⟩ | ⟨rfl, rfl⟩ | ⟨rfl, rfl⟩ | ⟨rfl, rfl⟩ | ⟨rfl, rfl⟩ |
      ⟨rfl, rfl⟩ | ⟨rfl, rfl⟩ | ⟨rfl, rfl⟩ | ⟨rfl, rfl⟩
    all_goals try trivial
    all_goals
      intro time found
      cases found
      exact Option.isSome_iff_ne_none.mp (by decide +kernel)
  · intro input older within
    simp only [lateCount, List.reverse_cons, List.reverse_nil, List.nil_append, List.cons_append,
      List.suffix_cons_iff, List.suffix_nil, List.cons.injEq, reduceCtorEq, or_false] at within
    rcases within with ⟨rfl, rfl⟩ | ⟨rfl, rfl⟩ | ⟨rfl, rfl⟩ | ⟨rfl, rfl⟩ | ⟨rfl, rfl⟩ | ⟨rfl, rfl⟩ |
      ⟨rfl, rfl⟩ | ⟨rfl, rfl⟩ | ⟨rfl, rfl⟩ | ⟨rfl, rfl⟩
    all_goals try trivial
    all_goals
      intro time found _
      cases found
      exact (Option.all_eq_true _ _).mp (by decide +kernel)

-- The second request of the window is counted when the key has expired.
def expiredCount : List CheckInput :=
  [ .request, .request, .count 0 true, .expire 0, .elapse 2000, .count 1 true ].reverse

/-- A count that comes after the expiry starts again from one, and two requests of the window are allowed
where the limit is one. -/
theorem late_count_passes : (∀ input older, input :: older <:+ expiredCount →
      Answered sampleLimiter (final sampleLimiter older) input) ∧
    ¬ Bounded sampleLimiter expiredCount := by
  constructor
  · intro input older within
    simp only [expiredCount, List.reverse_cons, List.reverse_nil, List.nil_append, List.cons_append,
      List.suffix_cons_iff, List.suffix_nil, List.cons.injEq, reduceCtorEq, or_false] at within
    rcases within with ⟨rfl, rfl⟩ | ⟨rfl, rfl⟩ | ⟨rfl, rfl⟩ | ⟨rfl, rfl⟩ | ⟨rfl, rfl⟩ | ⟨rfl, rfl⟩
    all_goals try trivial
    all_goals
      intro time found
      cases found
      exact Option.isSome_iff_ne_none.mp (by decide +kernel)
  · intro bounded
    have few := bounded.window 0
    revert few
    decide +kernel

end Delego.Gateway.RateLimiter
