import Delego.Wallet.SpendCounters

set_option autoImplicit false

namespace Delego.Gateway.RateLimiter

open Shared Delego.Wallet.SpendLimits

structure RateLimitConfig where
  maxRequests : Nat
  windowMs : Nat
  positive : 0 < windowMs

structure RateLimitResult where
  allowed : Bool
  limit : Nat
  remaining : Nat
  resetInSeconds : Nat
  identifier : String
  deriving DecidableEq

def rateLimitRules : List (String × RateLimitConfig) :=
  [("POST:/api/v1/auth/login", ⟨5, 60000, by decide⟩),
    ("POST:/api/v1/auth/register", ⟨3, 300000, by decide⟩),
    ("POST:/api/v1/delegations", ⟨20, 60000, by decide⟩),
    ("POST:/api/v1/orders", ⟨30, 60000, by decide⟩),
    ("GET:*", ⟨100, 60000, by decide⟩),
    ("*", ⟨60, 60000, by decide⟩)]

def defaultRateLimit : RateLimitConfig := ⟨60, 60000, by decide⟩

def getRateLimitConfig (method path : String) : RateLimitConfig :=
  (rateLimitRules.lookup (method ++ ":" ++ path) <|> rateLimitRules.lookup (method ++ ":*") <|>
    rateLimitRules.lookup "*").getD defaultRateLimit

def methodAndPath (endpoint : String) : String × String :=
  match endpoint.toList.splitOn ':' with
  | [] => ("*", "*")
  | [method] => (String.ofList method, "*")
  | method :: path :: _ => (String.ofList method, String.ofList path)

def configOf (endpoint : String) (overrideConfig : Option RateLimitConfig) : RateLimitConfig :=
  let (method, path) := methodAndPath endpoint
  overrideConfig.getD (getRateLimitConfig method path)

def buildKey (identifier endpoint : String) (windowKey : Nat) : String :=
  "ratelimit:" ++ identifier ++ ":" ++ endpoint ++ ":" ++ toString (windowKey : Int)

def expirySeconds (windowMs : Nat) : Nat := (windowMs + 999) / 1000

structure Limiter where
  identifier : String
  endpoint : String
  overrideConfig : Option RateLimitConfig

namespace Limiter

variable (limiter : Limiter)

def config : RateLimitConfig := configOf limiter.endpoint limiter.overrideConfig

def key (windowKey : Nat) : String := buildKey limiter.identifier limiter.endpoint windowKey

def windowAt (now : Nat) : Nat := now / limiter.config.windowMs

def allows (count : Nat) : Bool := count ≤ limiter.config.maxRequests

def result (count now : Nat) : RateLimitResult where
  allowed := limiter.allows count
  limit := limiter.config.maxRequests
  remaining := limiter.config.maxRequests - count
  resetInSeconds := ((limiter.windowAt now + 1) * limiter.config.windowMs - now + 999) / 1000
  identifier := limiter.identifier

end Limiter

inductive Call where
  | expiring (key : String)
  | returned (result : RateLimitResult)

structure System where
  clock : Nat
  redis : Redis
  calls : List Call

-- An expiry is set some time after the count that asked for it.
inductive Input where
  | elapse (time : Nat)
  | request (answered : Bool)
  | expire (id : Nat)

structure Decision where
  time : Nat
  allowed : Bool
  deriving DecidableEq

-- The counter after a request. Where it is not answered the code goes on with a count of one.
def counted (limiter : Limiter) (system : System) (answered : Bool) : Option (Nat × Redis) :=
  if answered then
    (system.redis.incrBy system.clock (limiter.key (limiter.windowAt system.clock)) 1).map
      fun (count, redis) => (count.toNat, redis)
  else none

/-- A request is counted at once, and the first of a window sets the expiry later. The code waits for the
count too: its own steps are those of `checkStep`. -/
def step (limiter : Limiter) (system : System) : Input → Option Decision × System
  | .elapse time => (none, { system with clock := system.clock + time })
  | .request answered =>
    let (count, redis) := (counted limiter system answered).getD (1, system.redis)
    let call := if count = 1 then .expiring (limiter.key (limiter.windowAt system.clock))
      else .returned (limiter.result count system.clock)
    (some ⟨system.clock, limiter.allows count⟩,
      { system with redis, calls := system.calls ++ [call] })
  | .expire id =>
    match system.calls[id]? with
    | some (.expiring key) =>
      (none,
        { system with
          redis := system.redis.expire system.clock key (expirySeconds limiter.config.windowMs)
          calls := system.calls.set id (.returned (limiter.result 1 system.clock)) })
    | some (.returned _) | none => (none, system)

theorem Limiter.windowAt_le {limiter : Limiter} {time time' : Nat} (later : time ≤ time') :
    limiter.windowAt time ≤ limiter.windowAt time' :=
  Nat.div_le_div_right later

end Delego.Gateway.RateLimiter
