import Delego.Shared.Pieces
import Delego.Shared.Unwinding
import Delego.Gateway.RateLimiter

set_option autoImplicit false

namespace Delego.Gateway.RateLimiter

open Shared Shared.Text Delego.Wallet.SpendLimits

/-- What the middleware reads of a request. The user is the one that the access token names. -/
structure IncomingMessage where
  userId : Option String
  forwarded : Option String
  remoteAddress : Option String
  method : Option String
  pathname : String

def getIdentifier (req : IncomingMessage) : String :=
  match truthy req.userId, req.forwarded with
  | some userId, _ => userId
  | none, some forwarded => trim (String.ofList ((pieces ',' forwarded).headD []))
  | none, none => req.remoteAddress.getD "unknown"

-- The server reads methods in capitals only.
def getEndpoint (req : IncomingMessage) : String := req.method.getD "GET" ++ ":" ++ req.pathname

structure Pair where
  identifier : String
  endpoint : String
  deriving DecidableEq

def Pair.of (req : IncomingMessage) : Pair := ⟨getIdentifier req, getEndpoint req⟩

def Pair.limiter (pair : Pair) (overrideConfig : Option RateLimitConfig) : Limiter :=
  ⟨pair.identifier, pair.endpoint, overrideConfig⟩

structure Buckets where
  clock : Nat
  redis : Redis
  calls : Pair → List Call

namespace Buckets

def opened (start : Nat) : Buckets := ⟨start, fun _ => none, fun _ => []⟩

variable (buckets : Buckets) (pair : Pair)

def system : System := ⟨buckets.clock, buckets.redis, buckets.calls pair⟩

def put (system : System) : Buckets :=
  ⟨system.clock, system.redis, Function.update buckets.calls pair system.calls⟩

end Buckets

inductive Event where
  | elapse (time : Nat)
  | request (pair : Pair) (answered : Bool)
  | expire (pair : Pair) (id : Nat)

def Event.concerns (pair : Pair) : Event → Bool
  | .elapse _ => false
  | .request other _ | .expire other _ => other = pair

def act (overrideConfig : Option RateLimitConfig) (buckets : Buckets) : Event →
    Option (Pair × Decision) × Buckets
  | .elapse time => (none, { buckets with clock := buckets.clock + time })
  | .request pair answered =>
    let (decision, system) := step (pair.limiter overrideConfig) (buckets.system pair) (.request answered)
    (decision.map fun decision => (pair, decision), buckets.put pair system)
  | .expire pair id =>
    (none, buckets.put pair (step (pair.limiter overrideConfig) (buckets.system pair) (.expire id)).2)

def decisionOf (pair : Pair) (output : Option (Pair × Decision)) : Option Decision :=
  output.bind fun (other, decision) => if other = pair then some decision else none

def decisions (overrideConfig : Option RateLimitConfig) (start : Nat) (pair : Pair) (events : List Event) :
    List Decision :=
  Run.seen (act overrideConfig) (decisionOf pair) (.opened start) events

def Isolated (overrideConfig : Option RateLimitConfig) (start : Nat) (pair other : Pair) : Prop :=
  ∀ events events' : List Event,
    (events.filter fun event => !event.concerns pair) = events'.filter (fun event => !event.concerns pair) →
      decisions overrideConfig start other events = decisions overrideConfig start other events'

def Limiter.readable (limiter : Limiter) (clock : Nat) : Set String :=
  { key | ∃ windowKey, limiter.windowAt clock ≤ windowKey ∧ key = limiter.key windowKey }

theorem Limiter.readable_later {limiter : Limiter} {clock time : Nat} {key : String}
    (later : key ∈ limiter.readable (clock + time)) : key ∈ limiter.readable clock := by
  obtain ⟨windowKey, reached, same⟩ := later
  exact ⟨windowKey, (Limiter.windowAt_le (Nat.le_add_right _ _)).trans reached, same⟩

section Steps

variable {limiter : Limiter} {system system' : System} {answered : Bool} {key : String}

def Limiter.currentKey (limiter : Limiter) (clock : Nat) : String := limiter.key (limiter.windowAt clock)

theorem Limiter.currentKey_readable (limiter : Limiter) (clock : Nat) :
    limiter.currentKey clock ∈ limiter.readable clock :=
  ⟨_, le_rfl, rfl⟩

def counting (limiter : Limiter) (system : System) (answered : Bool) : Nat × Redis :=
  (counted limiter system answered).getD (1, system.redis)

def callAfter (limiter : Limiter) (system : System) (answered : Bool) : Call :=
  if (counting limiter system answered).1 = 1 then .expiring (limiter.currentKey system.clock)
  else .returned (limiter.result (counting limiter system answered).1 system.clock)

theorem callAfter_expiring :
    callAfter limiter system answered = .expiring key ↔
      (counting limiter system answered).1 = 1 ∧ key = limiter.currentKey system.clock := by
  unfold callAfter
  split
  · next first => simp [first, @eq_comm _ key]
  · next later => simp [later]

theorem counting_other (other : key ≠ limiter.currentKey system.clock) :
    (counting limiter system answered).2 key = system.redis key := by
  cases answered with
  | false => rfl
  | true =>
    unfold counting counted
    cases ran : system.redis.incrBy system.clock (limiter.key (limiter.windowAt system.clock)) 1 with
    | none => rfl
    | some result =>
      obtain ⟨value, redis⟩ := result
      obtain ⟨_, rfl⟩ := Redis.incrBy_eq_some ran
      exact Function.update_of_ne other _ _

theorem counting_same (clock : system.clock = system'.clock)
    (same : system.redis (limiter.currentKey system.clock) = system'.redis (limiter.currentKey system.clock)) :
    (counting limiter system answered).1 = (counting limiter system' answered).1 ∧
      (counting limiter system answered).2 (limiter.currentKey system.clock) =
        (counting limiter system' answered).2 (limiter.currentKey system.clock) := by
  cases answered with
  | false => exact ⟨rfl, same⟩
  | true =>
    have counters : system.redis.counter system.clock (limiter.key (limiter.windowAt system.clock)) =
        system'.redis.counter system.clock (limiter.key (limiter.windowAt system.clock)) :=
      congrArg (Option.filter _) same
    have spends : system.redis.spend system.clock (limiter.key (limiter.windowAt system.clock)) =
        system'.redis.spend system.clock (limiter.key (limiter.windowAt system.clock)) := by
      unfold Redis.spend
      rw [counters]
    unfold counting counted Redis.incrBy Limiter.currentKey
    simp only [← clock, counters, spends, if_true]
    split
    · simp only [Option.map_some, Option.getD_some, Function.update_self, and_self]
    · exact ⟨rfl, same⟩

def Waits (calls : List Call) (id : Nat) (key : String) : Prop := calls[id]? = some (.expiring key)

theorem expire_own {id : Nat} (waits : Waits system.calls id key) :
    (step limiter system (.expire id)).2.redis =
      system.redis.expire system.clock key (expirySeconds limiter.config.windowMs) := by
  unfold Waits at waits
  simp only [step, waits]

theorem expire_cases (limiter : Limiter) (system : System) (id : Nat) :
    (∃ held, Waits system.calls id held ∧
      (step limiter system (.expire id)).2 =
        ⟨system.clock, system.redis.expire system.clock held (expirySeconds limiter.config.windowMs),
          system.calls.set id (.returned (limiter.result 1 system.clock))⟩) ∨
    (∀ held, ¬ Waits system.calls id held) ∧ (step limiter system (.expire id)).2 = system := by
  unfold Waits
  cases found : system.calls[id]? with
  | none =>
    right
    simp only [step, found, reduceCtorEq, not_false_eq_true, implies_true, and_self]
  | some call =>
    cases call with
    | returned result =>
      right
      simp only [step, found, Option.some.injEq, reduceCtorEq, not_false_eq_true, implies_true, and_self]
    | expiring held =>
      left
      refine ⟨held, rfl, ?_⟩
      simp only [step, found]

theorem expire_other {id : Nat} (apart : ¬ Waits system.calls id key) :
    (step limiter system (.expire id)).2.redis key = system.redis key := by
  rcases expire_cases limiter system id with ⟨held, waits, after⟩ | ⟨_, after⟩
  · have other : key ≠ held := by
      intro same
      rw [same] at apart
      exact apart waits
    rw [after]
    dsimp only
    unfold Redis.expire
    cases system.redis.counter system.clock held with
    | none => rfl
    | some counter => exact Function.update_of_ne other _ _
  · rw [after]

theorem expire_calls (system : System) (id other : Nat) (key : String) :
    Waits (step limiter system (.expire id)).2.calls other key ↔
      other ≠ id ∧ Waits system.calls other key := by
  rcases expire_cases limiter system id with ⟨held, waits, after⟩ | ⟨none, after⟩
  · rw [after]
    unfold Waits at waits ⊢
    by_cases same : other = id
    · simp [same, List.getElem?_set, waits]
    · simp [same, List.getElem?_set_ne (Ne.symm same)]
  · rw [after, iff_and_self]
    intro waits same
    rw [same] at waits
    exact none key waits

theorem expire_clock (system : System) (id : Nat) :
    (step limiter system (.expire id)).2.clock = system.clock := by
  rcases expire_cases limiter system id with ⟨_, _, after⟩ | ⟨_, after⟩
  · rw [after]
  · rw [after]

theorem expire_length (system : System) (id : Nat) :
    (step limiter system (.expire id)).2.calls.length = system.calls.length := by
  rcases expire_cases limiter system id with ⟨_, _, after⟩ | ⟨_, after⟩
  · rw [after]
    exact List.length_set
  · rw [after]

end Steps

section Alike

variable {overrideConfig : Option RateLimitConfig} {start : Nat} {hidden pair shown : Pair}
  {buckets buckets' : Buckets}

structure Alike (overrideConfig : Option RateLimitConfig) (start : Nat) (hidden shown : Pair)
    (buckets buckets' : Buckets) : Prop where
  begun : start ≤ buckets.clock
  clock : buckets.clock = buckets'.clock
  counters : ∀ key ∈ (shown.limiter overrideConfig).readable buckets.clock,
    buckets.redis key = buckets'.redis key
  made : ∀ pair ≠ hidden, (buckets.calls pair).length = (buckets'.calls pair).length
  waiting : ∀ pair ≠ hidden, ∀ id, ∀ key ∈ (shown.limiter overrideConfig).readable buckets.clock,
    Waits (buckets.calls pair) id key ↔ Waits (buckets'.calls pair) id key
  silent : ∀ id, ∀ key ∈ (shown.limiter overrideConfig).readable buckets.clock,
    ¬ Waits (buckets.calls hidden) id key

/-- From some time on a pair counts in no counter that the limiter of another one still looks at. -/
def Apart (overrideConfig : Option RateLimitConfig) (start : Nat) (hidden shown : Pair) : Prop :=
  ∀ clock, start ≤ clock →
    (hidden.limiter overrideConfig).currentKey clock ∉ (shown.limiter overrideConfig).readable clock

theorem waits_append {calls : List Call} {call : Call} {id : Nat} {key : String} :
    Waits (calls ++ [call]) id key ↔ Waits calls id key ∨ id = calls.length ∧ call = .expiring key := by
  unfold Waits
  rcases Nat.lt_trichotomy id calls.length with inside | last | beyond
  · rw [List.getElem?_append_left inside]
    simp [inside.ne]
  · simp [last]
  · have outside : (calls ++ [call])[id]? = none := by
      rw [List.getElem?_eq_none_iff, List.length_append]
      exact beyond
    rw [outside, List.getElem?_eq_none_iff.mpr beyond.le]
    simp [beyond.ne']

theorem Alike.elapse (alike : Alike overrideConfig start hidden shown buckets buckets') (time : Nat) :
    Alike overrideConfig start hidden shown (act overrideConfig buckets (.elapse time)).2
      (act overrideConfig buckets' (.elapse time)).2 where
  begun := alike.begun.trans (Nat.le_add_right _ _)
  clock := congrArg (· + time) alike.clock
  counters key later := alike.counters key (Limiter.readable_later later)
  made := alike.made
  waiting pair other id key later := alike.waiting pair other id key (Limiter.readable_later later)
  silent id key later := alike.silent id key (Limiter.readable_later later)

theorem act_request (buckets : Buckets) (pair : Pair) (answered : Bool) :
    act overrideConfig buckets (.request pair answered) =
      (some (pair, ⟨buckets.clock, (pair.limiter overrideConfig).allows
          (counting (pair.limiter overrideConfig) (buckets.system pair) answered).1⟩),
        ⟨buckets.clock, (counting (pair.limiter overrideConfig) (buckets.system pair) answered).2,
          Function.update buckets.calls pair
            (buckets.calls pair ++ [callAfter (pair.limiter overrideConfig) (buckets.system pair) answered])⟩) :=
  rfl

theorem Alike.put_hidden (alike : Alike overrideConfig start hidden shown buckets buckets') {redis : Redis}
    {calls : List Call}
    (counters : ∀ key ∈ (shown.limiter overrideConfig).readable buckets.clock, redis key = buckets.redis key)
    (silent : ∀ id, ∀ key ∈ (shown.limiter overrideConfig).readable buckets.clock, ¬ Waits calls id key) :
    Alike overrideConfig start hidden shown
      ⟨buckets.clock, redis, Function.update buckets.calls hidden calls⟩ buckets' := by
  constructor
  case begun => exact alike.begun
  case clock => exact alike.clock
  case counters =>
    intro key seen
    exact (counters key seen).trans (alike.counters key seen)
  case made =>
    intro pair other
    dsimp only
    rw [Function.update_of_ne other]
    exact alike.made pair other
  case waiting =>
    intro pair other id key seen
    dsimp only
    rw [Function.update_of_ne other]
    exact alike.waiting pair other id key seen
  case silent =>
    intro id key seen
    dsimp only
    rw [Function.update_self]
    exact silent id key seen

theorem Alike.put (alike : Alike overrideConfig start hidden shown buckets buckets') (apart : pair ≠ hidden)
    {redis redis' : Redis} {calls calls' : List Call}
    (counters : ∀ key ∈ (shown.limiter overrideConfig).readable buckets.clock, redis key = redis' key)
    (made : calls.length = calls'.length)
    (waiting : ∀ id, ∀ key ∈ (shown.limiter overrideConfig).readable buckets.clock,
      Waits calls id key ↔ Waits calls' id key) :
    Alike overrideConfig start hidden shown
      ⟨buckets.clock, redis, Function.update buckets.calls pair calls⟩
      ⟨buckets'.clock, redis', Function.update buckets'.calls pair calls'⟩ := by
  constructor
  case begun => exact alike.begun
  case clock => exact alike.clock
  case counters => exact counters
  case made =>
    intro other apart
    dsimp only
    by_cases same : other = pair
    · rw [same, Function.update_self, Function.update_self]
      exact made
    · rw [Function.update_of_ne same, Function.update_of_ne same]
      exact alike.made other apart
  case waiting =>
    intro other apart id key seen
    dsimp only
    by_cases same : other = pair
    · rw [same, Function.update_self, Function.update_self]
      exact waiting id key seen
    · rw [Function.update_of_ne same, Function.update_of_ne same]
      exact alike.waiting other apart id key seen
  case silent =>
    intro id key seen
    dsimp only
    rw [Function.update_of_ne apart.symm]
    exact alike.silent id key seen

theorem Alike.hidden_request (alike : Alike overrideConfig start hidden shown buckets buckets')
    (apart : Apart overrideConfig start hidden shown) (answered : Bool) :
    Alike overrideConfig start hidden shown (act overrideConfig buckets (.request hidden answered)).2
      buckets' := by
  rw [act_request]
  apply alike.put_hidden
  · intro key seen
    apply counting_other
    intro same
    rw [same] at seen
    exact apart _ alike.begun seen
  · intro id key seen
    rw [waits_append]
    rintro (old | ⟨_, new⟩)
    · exact alike.silent id key seen old
    · obtain ⟨_, rfl⟩ := callAfter_expiring.mp new
      exact apart _ alike.begun seen

theorem act_expire (buckets : Buckets) (pair : Pair) (id : Nat) :
    act overrideConfig buckets (.expire pair id) =
      (none, ⟨(step (pair.limiter overrideConfig) (buckets.system pair) (.expire id)).2.clock,
        (step (pair.limiter overrideConfig) (buckets.system pair) (.expire id)).2.redis,
        Function.update buckets.calls pair
          (step (pair.limiter overrideConfig) (buckets.system pair) (.expire id)).2.calls⟩) :=
  rfl

theorem Alike.hidden_expire (alike : Alike overrideConfig start hidden shown buckets buckets') (id : Nat) :
    Alike overrideConfig start hidden shown (act overrideConfig buckets (.expire hidden id)).2 buckets' := by
  have kept : (step (hidden.limiter overrideConfig) (buckets.system hidden) (.expire id)).2.clock =
      buckets.clock := expire_clock _ id
  rw [act_expire, kept]
  apply alike.put_hidden
  · intro key seen
    exact expire_other (alike.silent id key seen)
  · intro call key seen waits
    exact alike.silent call key seen ((expire_calls _ _ _ _).mp waits).2

theorem Alike.same_count (alike : Alike overrideConfig start hidden shown buckets buckets') (pair : Pair)
    (answered : Bool)
    (seen : (pair.limiter overrideConfig).currentKey buckets.clock ∈
      (shown.limiter overrideConfig).readable buckets.clock) :
    (counting (pair.limiter overrideConfig) (buckets.system pair) answered).1 =
        (counting (pair.limiter overrideConfig) (buckets'.system pair) answered).1 ∧
      (counting (pair.limiter overrideConfig) (buckets.system pair) answered).2
          ((pair.limiter overrideConfig).currentKey buckets.clock) =
        (counting (pair.limiter overrideConfig) (buckets'.system pair) answered).2
          ((pair.limiter overrideConfig).currentKey buckets.clock) := by
  have clocks : (buckets.system pair).clock = (buckets'.system pair).clock := alike.clock
  exact counting_same clocks (alike.counters _ seen)

theorem Alike.request (alike : Alike overrideConfig start hidden shown buckets buckets')
    (apart : pair ≠ hidden) (answered : Bool) :
    Alike overrideConfig start hidden shown (act overrideConfig buckets (.request pair answered)).2
      (act overrideConfig buckets' (.request pair answered)).2 := by
  have clocks : (buckets.system pair).clock = (buckets'.system pair).clock := alike.clock
  rw [act_request, act_request]
  apply alike.put apart
  · intro key seen
    by_cases own : key = (pair.limiter overrideConfig).currentKey buckets.clock
    · subst own
      exact (alike.same_count pair answered seen).2
    · have own' : key ≠ (pair.limiter overrideConfig).currentKey (buckets'.system pair).clock := by
        rw [← clocks]
        exact own
      have kept : (counting (pair.limiter overrideConfig) (buckets.system pair) answered).2 key =
        buckets.redis key := counting_other own
      have kept' : (counting (pair.limiter overrideConfig) (buckets'.system pair) answered).2 key =
        buckets'.redis key := counting_other own'
      rw [kept, kept', alike.counters key seen]
  · rw [List.length_append, List.length_append, alike.made pair apart]
    rfl
  · intro id key seen
    rw [waits_append, waits_append, alike.waiting pair apart id key seen, alike.made pair apart,
      callAfter_expiring, callAfter_expiring, ← clocks]
    by_cases own : key = (pair.limiter overrideConfig).currentKey (buckets.system pair).clock
    · subst own
      rw [(alike.same_count pair answered seen).1]
    · simp only [own, and_false]

theorem Alike.expire (alike : Alike overrideConfig start hidden shown buckets buckets')
    (apart : pair ≠ hidden) (id : Nat) :
    Alike overrideConfig start hidden shown (act overrideConfig buckets (.expire pair id)).2
      (act overrideConfig buckets' (.expire pair id)).2 := by
  have kept : (step (pair.limiter overrideConfig) (buckets.system pair) (.expire id)).2.clock =
      buckets.clock := expire_clock _ id
  have kept' : (step (pair.limiter overrideConfig) (buckets'.system pair) (.expire id)).2.clock =
      buckets'.clock := expire_clock _ id
  rw [act_expire, act_expire, kept, kept']
  apply alike.put apart
  · intro key seen
    have waiting := alike.waiting pair apart id key seen
    by_cases waits : Waits (buckets.calls pair) id key
    · have own : (step (pair.limiter overrideConfig) (buckets.system pair) (.expire id)).2.redis =
        buckets.redis.expire buckets.clock key _ := expire_own waits
      have own' : (step (pair.limiter overrideConfig) (buckets'.system pair) (.expire id)).2.redis =
        buckets'.redis.expire buckets'.clock key _ := expire_own (waiting.mp waits)
      have counters : buckets.redis.counter buckets.clock key = buckets'.redis.counter buckets.clock key :=
        congrArg (Option.filter _) (alike.counters key seen)
      rw [own, own', ← alike.clock]
      unfold Redis.expire
      rw [counters]
      cases buckets'.redis.counter buckets.clock key with
      | none => exact alike.counters key seen
      | some counter => simp only [Function.update_self]
    · have other : (step (pair.limiter overrideConfig) (buckets.system pair) (.expire id)).2.redis key =
        buckets.redis key := expire_other waits
      have other' : (step (pair.limiter overrideConfig) (buckets'.system pair) (.expire id)).2.redis key =
        buckets'.redis key := expire_other fun waits' => waits (waiting.mpr waits')
      rw [other, other', alike.counters key seen]
  · rw [expire_length, expire_length]
    exact alike.made pair apart
  · intro call key seen
    rw [expire_calls, expire_calls]
    exact and_congr_right fun _ => alike.waiting pair apart call key seen

theorem Alike.decision (alike : Alike overrideConfig start hidden shown buckets buckets') (answered : Bool) :
    decisionOf shown (act overrideConfig buckets (.request pair answered)).1 =
      decisionOf shown (act overrideConfig buckets' (.request pair answered)).1 := by
  rw [act_request, act_request]
  by_cases own : pair = shown
  · subst own
    have same := (alike.same_count pair answered (Limiter.currentKey_readable _ _)).1
    rw [same, alike.clock]
  · simp only [decisionOf, Option.bind_some, own, if_false]

theorem unwinding (apart : Apart overrideConfig start hidden shown) (distinct : hidden ≠ shown) :
    Run.Unwinding (act overrideConfig) (decisionOf shown) (Event.concerns hidden)
      (Alike overrideConfig start hidden shown) where
  skipped := by
    intro buckets buckets' event concerned alike
    cases event with
    | elapse time => cases concerned
    | request pair answered =>
      obtain rfl : pair = hidden := of_decide_eq_true concerned
      rw [act_request]
      refine ⟨?_, ?_⟩
      · exact alike.hidden_request apart answered
      · simp only [decisionOf, Option.bind_some, distinct, if_false]
    | expire pair id =>
      obtain rfl : pair = hidden := of_decide_eq_true concerned
      exact ⟨alike.hidden_expire id, rfl⟩
  matched := by
    intro buckets buckets' event concerned alike
    cases event with
    | elapse time => exact ⟨alike.elapse time, rfl⟩
    | request pair answered =>
      exact ⟨alike.request (of_decide_eq_false concerned) answered, alike.decision answered⟩
    | expire pair id => exact ⟨alike.expire (of_decide_eq_false concerned) id, rfl⟩

theorem opened_alike (overrideConfig : Option RateLimitConfig) (start : Nat) (hidden shown : Pair) :
    Alike overrideConfig start hidden shown (.opened start) (.opened start) where
  begun := le_rfl
  clock := rfl
  counters _ _ := rfl
  made _ _ := rfl
  waiting _ _ _ _ _ := Iff.rfl
  silent id key _ := by
    intro waits
    cases waits

theorem isolated_of_apart (apart : Apart overrideConfig start hidden shown) (distinct : hidden ≠ shown) :
    Isolated overrideConfig start hidden shown :=
  fun _ _ agree => (unwinding apart distinct).seen_eq (opened_alike overrideConfig start hidden shown) agree

end Alike

section Keys

variable {overrideConfig : Option RateLimitConfig} {start : Nat} {hidden shown : Pair}

/-- What stands between the colons of an identifier and an endpoint, one after the other. -/
def Pair.colonPieces (pair : Pair) : List (List Char) :=
  pieces ':' pair.identifier ++ pieces ':' pair.endpoint

theorem pieces_number (number : Nat) : pieces ':' (toString (number : Int)) = [Nat.toDigits 10 number] := by
  have clean : ':' ∉ Nat.toDigits 10 number := by
    intro member
    cases Number.isDigit_toDigits number ':' member
  rw [Number.toString_natCast, pieces, String.toList_ofList, List.splitOn_eq_singleton clean]

theorem pieces_key (pair : Pair) (windowKey : Nat) :
    pieces ':' ((pair.limiter overrideConfig).key windowKey) =
      pieces ':' "ratelimit" ++ (pair.colonPieces ++ [Nat.toDigits 10 windowKey]) := by
  have parts : (pair.limiter overrideConfig).key windowKey = "ratelimit" ++ String.singleton ':' ++
      pair.identifier ++ String.singleton ':' ++ pair.endpoint ++ String.singleton ':' ++
        toString (windowKey : Int) := rfl
  rw [parts, pieces_joined, pieces_joined, pieces_joined, pieces_number]
  simp only [Pair.colonPieces, List.append_assoc]

theorem key_eq_iff {pair pair' : Pair} {windowKey windowKey' : Nat} :
    (pair.limiter overrideConfig).key windowKey = (pair'.limiter overrideConfig).key windowKey' ↔
      pair.colonPieces = pair'.colonPieces ∧ windowKey = windowKey' := by
  rw [← @pieces_inj ':', pieces_key, pieces_key, List.append_cancel_left_eq]
  constructor
  · intro same
    obtain ⟨texts, numbers⟩ := List.append_inj' same rfl
    have digits := congrArg (fun chars => Nat.ofDigitChars 10 chars 0) (List.singleton_inj.mp numbers)
    simp only [Nat.ofDigitChars_ten_toDigits] at digits
    exact ⟨texts, digits⟩
  · rintro ⟨texts, rfl⟩
    rw [texts]

theorem Limiter.exists_later {limiter : Limiter} {clock windowKey : Nat}
    (reached : limiter.windowAt clock ≤ windowKey) : ∃ later, clock ≤ later ∧ limiter.windowAt later = windowKey := by
  rcases Nat.eq_or_lt_of_le reached with now | coming
  · exact ⟨clock, le_rfl, now⟩
  · have positive := limiter.config.positive
    have past : clock < windowKey * limiter.config.windowMs := (Nat.div_lt_iff_lt_mul positive).mp coming
    exact ⟨windowKey * limiter.config.windowMs, past.le, Nat.mul_div_cancel _ positive⟩

def NeverMeet (overrideConfig : Option RateLimitConfig) (start : Nat) (hidden shown : Pair) : Prop :=
  ∀ clock, start ≤ clock → ∀ later, clock ≤ later →
    (hidden.limiter overrideConfig).windowAt clock ≠ (shown.limiter overrideConfig).windowAt later

theorem apart_iff : Apart overrideConfig start hidden shown ↔
    hidden.colonPieces ≠ shown.colonPieces ∨ NeverMeet overrideConfig start hidden shown := by
  constructor
  · intro apart
    by_cases same : hidden.colonPieces = shown.colonPieces
    · refine .inr fun clock begun later after meets => ?_
      exact apart clock begun ⟨_, Limiter.windowAt_le after, key_eq_iff.mpr ⟨same, meets⟩⟩
    · exact .inl same
  · rintro apart clock begun ⟨windowKey, reached, same⟩
    obtain ⟨pieces, meets⟩ := key_eq_iff.mp same
    rcases apart with differ | never
    · exact differ pieces
    · obtain ⟨later, after, rfl⟩ := Limiter.exists_later reached
      exact never clock begun later after meets

end Keys

section Interference

variable {overrideConfig : Option RateLimitConfig} {start : Nat} {hidden shown : Pair}
  {limiter : Limiter} {system : System}

theorem counting_spent {value : Nat}
    (spent : system.redis.spend system.clock (limiter.currentKey system.clock) = value)
    (room : value + 1 < 2 ^ 63) :
    (counting limiter system true).1 = value + 1 ∧
      (counting limiter system true).2.spend system.clock (limiter.currentKey system.clock) = value + 1 := by
  have fitting : (fits 1 && fits ((value : Int) + 1)) = true := by
    simp only [fits, Bool.and_eq_true, decide_eq_true_eq]
    omega
  have ran : ∃ redis, system.redis.incrBy system.clock (limiter.currentKey system.clock) 1 =
      some ((value : Int) + 1, redis) := by
    simp only [Redis.incrBy, spent, fitting, if_true, Option.some.injEq, Prod.mk.injEq, true_and, exists_eq']
  obtain ⟨redis, ran⟩ := ran
  have after : redis.spend system.clock (limiter.currentKey system.clock) = _ := Redis.incrBy_spend ran
  have counts : counting limiter system true = (value + 1, redis) := by
    unfold counting counted
    simp only [if_true]
    rw [← Limiter.currentKey, ran]
    rfl
  rw [counts]
  refine ⟨rfl, ?_⟩
  rw [after, spent, if_pos rfl]

def Spent (overrideConfig : Option RateLimitConfig) (pair : Pair) (buckets : Buckets) (value : Nat) : Prop :=
  buckets.redis.spend buckets.clock ((pair.limiter overrideConfig).currentKey buckets.clock) = value

def burst (pair : Pair) (requests : Nat) : List Event := List.replicate requests (.request pair true)

theorem burst_spent {buckets : Buckets} {value : Nat} (requests : Nat)
    (spent : Spent overrideConfig shown buckets value) (room : value + requests < 2 ^ 63) :
    Spent overrideConfig shown (Run.final (act overrideConfig) buckets (burst shown requests))
      (value + requests) := by
  induction requests with
  | zero => exact spent
  | succ requests ih =>
    have before := ih (by omega)
    have after := (@counting_spent _ (Buckets.system _ shown) _ before (by omega)).2
    unfold Spent
    rw [burst, List.replicate_succ, Run.final, act_request, Nat.cast_add, Nat.cast_add, Nat.cast_one, ← Int.add_assoc]
    exact_mod_cast after

theorem decisions_burst {value : Nat} {earlier : List Event} (requests : Nat)
    (spent : Spent overrideConfig shown (Run.final (act overrideConfig) (.opened start) earlier) value)
    (room : value + requests + 1 < 2 ^ 63) :
    (decisions overrideConfig start shown (burst shown (requests + 1) ++ earlier)).head?.map Decision.allowed =
      some ((shown.limiter overrideConfig).allows (value + requests + 1)) := by
  have before := burst_spent requests spent (by omega)
  have count := (@counting_spent _ (Buckets.system _ shown) _ before room).1
  rw [burst, List.replicate_succ, List.cons_append, decisions, Run.seen_cons, Run.final_append, act_request]
  simp only [decisionOf, Option.bind_some, if_true, Option.toList_some, List.singleton_append, List.head?_cons,
    Option.map_some]
  rw [← burst, count]

theorem opened_counts (limiter : Limiter) (clock : Nat) (calls : List Call) :
    counting limiter ⟨clock, fun _ => none, calls⟩ true =
      (1, Function.update (fun _ => none) (limiter.currentKey clock) (some ⟨1, none⟩)) := by
  rfl

theorem opened_elapsed {clock : Nat} (begun : start ≤ clock) :
    (act overrideConfig (.opened start) (.elapse (clock - start))).2 = .opened clock := by
  simp only [act, Buckets.opened, Nat.add_sub_cancel' begun]

theorem spent_shared {clock later : Nat} (after : clock ≤ later)
    (same : (hidden.limiter overrideConfig).currentKey clock = (shown.limiter overrideConfig).currentKey later) :
    Spent overrideConfig shown
      (act overrideConfig (act overrideConfig (.opened clock) (.request hidden true)).2
        (.elapse (later - clock))).2 1 := by
  have stored : (counting (hidden.limiter overrideConfig) (Buckets.system (.opened clock) hidden) true).2 =
      Function.update (fun _ => none) ((hidden.limiter overrideConfig).currentKey clock) (some ⟨1, none⟩) :=
    congrArg Prod.snd (opened_counts _ _ _)
  rw [act_request, stored, same]
  simp only [Spent, act, Buckets.opened, Nat.add_sub_cancel' after, Redis.spend, Redis.counter,
    Function.update_self]
  rfl

/-- Where the limit of a pair can be reached, a request of a pair that counts in the same counter takes
one of its requests away. -/
theorem interferes (meets : ¬ Apart overrideConfig start hidden shown)
    (limited : (shown.limiter overrideConfig).config.maxRequests ≠ 0)
    (reachable : (shown.limiter overrideConfig).config.maxRequests < 2 ^ 63 - 1) :
    ¬ Isolated overrideConfig start hidden shown := by
  intro isolated
  simp only [Apart, not_forall, not_not] at meets
  obtain ⟨clock, begun, windowKey, reached, same⟩ := meets
  obtain ⟨later, after, rfl⟩ := Limiter.exists_later reached
  obtain ⟨requests, limit⟩ := Nat.exists_eq_succ_of_ne_zero limited
  have quiet : Spent overrideConfig shown
      (Run.final (act overrideConfig) (.opened start) [.elapse (later - clock), .elapse (clock - start)]) 0 := rfl
  have noisy : Spent overrideConfig shown (Run.final (act overrideConfig) (.opened start)
      [.elapse (later - clock), .request hidden true, .elapse (clock - start)]) 1 := by
    simp only [Run.final, opened_elapsed begun]
    exact spent_shared after same
  have agree := isolated
    (burst shown (requests + 1) ++ [.elapse (later - clock), .elapse (clock - start)])
    (burst shown (requests + 1) ++ [.elapse (later - clock), .request hidden true, .elapse (clock - start)])
    (by simp [Event.concerns])
  have first := decisions_burst requests quiet (by omega)
  have second := decisions_burst requests noisy (by omega)
  rw [agree, second] at first
  simp only [Limiter.allows, limit] at first
  have differ := Option.some.inj first
  simp only [decide_eq_decide] at differ
  omega

end Interference

section Verdict

variable {overrideConfig : Option RateLimitConfig} {start : Nat} {hidden shown : Pair}
  {limiter : Limiter} {system : System} {redis : Redis}

def Counts (redis : Redis) : Prop := ∀ key counter, redis key = some counter → 0 ≤ counter.value

theorem Counts.spend (counts : Counts redis) (now : Nat) (key : String) : 0 ≤ redis.spend now key := by
  unfold Redis.spend
  cases held : redis.counter now key with
  | none => exact le_rfl
  | some counter => exact counts key counter (Redis.counter_eq_some held).1

theorem Counts.expire (counts : Counts redis) (now : Nat) (key : String) (seconds : Int) :
    Counts (redis.expire now key seconds) := by
  unfold Redis.expire
  cases held : redis.counter now key with
  | none => exact counts
  | some counter =>
    have positive := counts key counter (Redis.counter_eq_some held).1
    intro other stored found
    dsimp only at found
    by_cases same : other = key
    · rw [same, Function.update_self] at found
      cases found
      exact positive
    · rw [Function.update_of_ne same] at found
      exact counts other stored found

theorem incrBy_fits {now amount value : Int} {key : String} {after : Redis}
    (ran : redis.incrBy now key amount = some (value, after)) : value < 2 ^ 63 := by
  unfold Redis.incrBy at ran
  dsimp only at ran
  split at ran
  · next fitting =>
    cases ran
    simp only [fits, Bool.and_eq_true, decide_eq_true_eq] at fitting
    exact fitting.2.2
  · cases ran

theorem one_most : (1 : Nat) ≤ 2 ^ 63 - 1 := by
  decide

theorem Counts.counting (counts : Counts system.redis) (answered : Bool) :
    1 ≤ (counting limiter system answered).1 ∧ (counting limiter system answered).1 ≤ 2 ^ 63 - 1 ∧
      Counts (counting limiter system answered).2 := by
  cases answered with
  | false => exact ⟨le_rfl, one_most, counts⟩
  | true =>
    unfold RateLimiter.counting counted
    cases ran : system.redis.incrBy system.clock (limiter.key (limiter.windowAt system.clock)) 1 with
    | none => exact ⟨le_rfl, one_most, counts⟩
    | some result =>
      obtain ⟨value, redis⟩ := result
      have positive := counts.spend system.clock (limiter.key (limiter.windowAt system.clock))
      have small := incrBy_fits ran
      obtain ⟨total, rfl⟩ := Redis.incrBy_eq_some ran
      simp only [if_true, Option.map_some, Option.getD_some]
      refine ⟨by omega, by omega, ?_⟩
      intro key counter held
      by_cases same : key = limiter.key (limiter.windowAt system.clock)
      · rw [same, Function.update_self] at held
        cases held
        show 0 ≤ _ + 1
        omega
      · rw [Function.update_of_ne same] at held
        exact counts key counter held

theorem act_counts {buckets : Buckets} (counts : Counts buckets.redis) (event : Event) :
    Counts (act overrideConfig buckets event).2.redis := by
  cases event with
  | elapse time => exact counts
  | request pair answered =>
    have system : Counts (buckets.system pair).redis := counts
    exact (system.counting answered).2.2
  | expire pair id =>
    rw [act_expire]
    dsimp only
    rcases expire_cases (pair.limiter overrideConfig) (buckets.system pair) id with ⟨_, _, after⟩ | ⟨_, after⟩
    · rw [after]
      exact counts.expire _ _ _
    · rw [after]
      exact counts

theorem isolated_of_constant {verdict : Bool} (distinct : hidden ≠ shown)
    (constant : ∀ count, 1 ≤ count → count ≤ 2 ^ 63 - 1 → (shown.limiter overrideConfig).allows count = verdict) :
    Isolated overrideConfig start hidden shown := by
  have unwinding : Run.Unwinding (act overrideConfig) (decisionOf shown) (Event.concerns hidden)
      fun buckets buckets' => buckets.clock = buckets'.clock ∧ Counts buckets.redis ∧ Counts buckets'.redis := by
    constructor
    case skipped =>
      rintro buckets buckets' event concerned ⟨clock, counts, counts'⟩
      cases event with
      | elapse time => cases concerned
      | request pair answered =>
        obtain rfl : pair = hidden := of_decide_eq_true concerned
        refine ⟨⟨clock, act_counts counts _, counts'⟩, ?_⟩
        rw [act_request]
        simp only [decisionOf, Option.bind_some, distinct, if_false]
      | expire pair id => exact ⟨⟨(expire_clock _ id).trans clock, act_counts counts _, counts'⟩, rfl⟩
    case matched =>
      rintro buckets buckets' event concerned ⟨clock, counts, counts'⟩
      cases event with
      | elapse time => exact ⟨⟨congrArg (· + time) clock, counts, counts'⟩, rfl⟩
      | request pair answered =>
        refine ⟨⟨clock, act_counts counts _, act_counts counts' _⟩, ?_⟩
        rw [act_request, act_request]
        by_cases own : pair = shown
        · subst own
          have system : Counts (buckets.system pair).redis := counts
          have system' : Counts (buckets'.system pair).redis := counts'
          obtain ⟨least, most, _⟩ := system.counting answered
          obtain ⟨least', most', _⟩ := system'.counting answered
          rw [constant _ least most, constant _ least' most', clock]
        · simp only [decisionOf, Option.bind_some, own, if_false]
      | expire pair id =>
        refine ⟨⟨?_, act_counts counts _, act_counts counts' _⟩, rfl⟩
        exact (expire_clock (buckets.system pair) id).trans
          (clock.trans (expire_clock (buckets'.system pair) id).symm)
  intro events events' agree
  refine unwinding.seen_eq ⟨rfl, ?_, ?_⟩ agree
  all_goals
    intro key counter held
    cases held

end Verdict

/-- Requests of one pair never change what is decided for another just when the two have different pieces
between their colons, the limit cannot be reached, or their windows never meet. -/
theorem buckets_isolated_iff (overrideConfig : Option RateLimitConfig) (start : Nat) {hidden shown : Pair}
    (distinct : hidden ≠ shown) :
    Isolated overrideConfig start hidden shown ↔
      hidden.colonPieces ≠ shown.colonPieces ∨
      (shown.limiter overrideConfig).config.maxRequests = 0 ∨
      2 ^ 63 - 1 ≤ (shown.limiter overrideConfig).config.maxRequests ∨
      NeverMeet overrideConfig start hidden shown := by
  constructor
  · intro isolated
    by_cases apart : Apart overrideConfig start hidden shown
    · rcases apart_iff.mp apart with differ | never
      · exact .inl differ
      · exact .inr (.inr (.inr never))
    by_cases closed : (shown.limiter overrideConfig).config.maxRequests = 0
    · exact .inr (.inl closed)
    by_cases endless : 2 ^ 63 - 1 ≤ (shown.limiter overrideConfig).config.maxRequests
    · exact .inr (.inr (.inl endless))
    · exact absurd isolated (interferes apart closed (Nat.lt_of_not_le endless))
  · rintro (differ | closed | endless | never)
    · exact isolated_of_apart (apart_iff.mpr (.inl differ)) distinct
    · refine @isolated_of_constant _ _ _ _ false distinct fun count least _ => ?_
      simp only [Limiter.allows, closed, decide_eq_false_iff_not]
      omega
    · refine @isolated_of_constant _ _ _ _ true distinct fun count _ most => ?_
      exact decide_eq_true (most.trans endless)
    · exact isolated_of_apart (apart_iff.mpr (.inr never)) distinct

-- Both requests are anonymous. The first one's header names an address followed by an endpoint.
def forwardedRequest : IncomingMessage where
  userId := none
  forwarded := some "203.0.113.7:GET:/orders, 198.51.100.2"
  remoteAddress := some "198.51.100.2"
  method := some "GET"
  pathname := "/cart"

def directRequest : IncomingMessage where
  userId := none
  forwarded := none
  remoteAddress := some "203.0.113.7"
  method := some "GET"
  pathname := "/orders:GET:/cart"

theorem buckets_isolated_iff_forwarded :
    Isolated none 1767225600000 (.of forwardedRequest) (.of directRequest) ↔
      Pair.colonPieces (.of forwardedRequest) ≠ Pair.colonPieces (.of directRequest) ∨
      (Pair.limiter (.of directRequest) none).config.maxRequests = 0 ∨
      2 ^ 63 - 1 ≤ (Pair.limiter (.of directRequest) none).config.maxRequests ∨
      NeverMeet none 1767225600000 (.of forwardedRequest) (.of directRequest) :=
  buckets_isolated_iff none 1767225600000 (by decide +kernel)

theorem forwarded_request_interferes : ¬ ∀ (overrideConfig : Option RateLimitConfig) (start : Nat)
    (hidden shown : Pair), hidden ≠ shown → Isolated overrideConfig start hidden shown := by
  intro isolated
  have limit : (Pair.limiter (.of directRequest) none).config.maxRequests = 100 := by
    decide +kernel
  have windows : (Pair.limiter (.of forwardedRequest) none).config.windowMs =
      (Pair.limiter (.of directRequest) none).config.windowMs := by
    decide +kernel
  have meets : ¬ Apart none 1767225600000 (.of forwardedRequest) (.of directRequest) := by
    rw [apart_iff]
    rintro (differ | never)
    · exact differ (by decide +kernel)
    · apply never 1767225600000 le_rfl 1767225600000 le_rfl
      rw [Limiter.windowAt, windows]
      rfl
  apply interferes meets
  · rw [limit]
    decide
  · rw [limit]
    decide
  · exact isolated none 1767225600000 _ _ (by decide +kernel)

end Delego.Gateway.RateLimiter
