import Delego.Shared.Calendar
import Delego.Shared.Number
import Mathlib.Logic.Function.Basic

set_option autoImplicit false

namespace Delego.Wallet.SpendLimits

open Shared Shared.Text Shared.Calendar

structure SpendLimit where
  userId : String
  walletId : Option String
  delegationId : Option String
  limitPerTransaction : Option Int
  limitDaily : Option Int
  limitWeekly : Option Int
  limitLifetime : Option Int
  deriving DecidableEq

structure SpendCheckResult where
  allowed : Bool
  reason : Option String
  limit : Option String
  currentSpend : Option String
  requestedAmount : Option String
  deriving DecidableEq

def getDailyKey (userId walletId : String) (date : Int) : String :=
  let day := dayOf date
  let yyyy := toString (yearOf day)
  let mm := padStart 2 (toString ((monthOf day : Int) + 1))
  let dd := padStart 2 (toString (dateOf day))
  "spend:daily:" ++ userId ++ ":" ++ walletId ++ ":" ++ (yyyy ++ "-" ++ mm ++ "-" ++ dd)

def getWeeklyKey (userId walletId : String) (date : Int) : String :=
  let d := utc (yearOf (dayOf date)) (monthOf (dayOf date)) (dateOf (dayOf date))
  let dayNum := if weekDay d = 0 then 7 else weekDay d
  -- The Thursday of the week.
  let d := d + 4 - dayNum
  let yearStart := utc (yearOf d) 0 1
  let weekNo := (d - yearStart + 1 + 6) / 7
  let ww := padStart 2 (toString weekNo)
  "spend:weekly:" ++ userId ++ ":" ++ walletId ++ ":" ++ (toString (yearOf d) ++ "-W" ++ ww)

def getLifetimeKey (userId walletId : String) : String :=
  "spend:lifetime:" ++ userId ++ ":" ++ walletId

def findConfig (limits : List SpendLimit) (userId : String) (walletId delegationId : Option String) :
    Option SpendLimit :=
  let walletId := truthy walletId
  let delegationId := truthy delegationId
  let exact := limits.find? fun row =>
    row.userId = userId ∧ row.delegationId = delegationId ∧ row.walletId = walletId
  let delegated := if delegationId.isSome then
      limits.find? fun row => row.delegationId = delegationId
    else none
  let walleted := if walletId.isSome then
      limits.find? fun row => row.walletId = walletId ∧ row.delegationId = none
    else none
  let general := limits.find? fun row =>
    row.userId = userId ∧ row.delegationId = none ∧ row.walletId = none
  exact <|> delegated <|> walleted <|> general

def allowed : SpendCheckResult := ⟨true, none, none, none, none⟩

def checkPerTransaction (config : SpendLimit) (amountStroops : Int) : Option SpendCheckResult :=
  match config.limitPerTransaction with
  | some limit =>
    if amountStroops > limit then
      some ⟨false, "Per-transaction limit exceeded", toString limit, none, toString amountStroops⟩
    else none
  | none => none

def checkLimit (reason : String) (limit : Option Int) (spend amountStroops : Int) :
    Option SpendCheckResult :=
  match limit with
  | some limit =>
    if spend + amountStroops > limit then
      some ⟨false, reason, toString limit, toString spend, toString amountStroops⟩
    else none
  | none => none

def checkDaily (config : SpendLimit) : Int → Int → Option SpendCheckResult :=
  checkLimit "Daily limit exceeded" config.limitDaily

def checkWeekly (config : SpendLimit) : Int → Int → Option SpendCheckResult :=
  checkLimit "Weekly limit exceeded" config.limitWeekly

def checkLifetime (config : SpendLimit) : Int → Int → Option SpendCheckResult :=
  checkLimit "Lifetime limit exceeded" config.limitLifetime

def checkCounters (config : SpendLimit) (dailySpend weeklySpend lifetimeSpend amountStroops : Int) :
    SpendCheckResult :=
  match checkDaily config dailySpend amountStroops <|> checkWeekly config weeklySpend amountStroops <|>
      checkLifetime config lifetimeSpend amountStroops with
  | some refusal => refusal
  | none => allowed

-- An expiry is the time from which a key is not there any more.
structure Counter where
  value : Int
  expiry : Option Int

abbrev Redis := String → Option Counter

def Counter.live (now : Int) (counter : Counter) : Bool :=
  match counter.expiry with
  | some expiry => now < expiry
  | none => true

def Redis.counter (redis : Redis) (now : Int) (key : String) : Option Counter :=
  (redis key).filter (Counter.live now)

-- A key that is missing reads as "0".
def Redis.spend (redis : Redis) (now : Int) (key : String) : Int :=
  match redis.counter now key with
  | some counter => counter.value
  | none => 0

def fits (value : Int) : Bool := -2 ^ 63 ≤ value && value < 2 ^ 63

-- It fails where the amount or the total is no 64-bit number.
def Redis.incrBy (redis : Redis) (now : Int) (key : String) (amount : Int) : Option (Int × Redis) :=
  let total := redis.spend now key + amount
  let expiry := (redis.counter now key).bind Counter.expiry
  if fits amount && fits total then some (total, Function.update redis key (some ⟨total, expiry⟩))
  else none

def Redis.expire (redis : Redis) (now : Int) (key : String) (seconds : Int) : Redis :=
  match redis.counter now key with
  | some counter => Function.update redis key (some ⟨counter.value, some (now + 1000 * seconds)⟩)
  | none => redis

structure SpendKeys where
  dailyKey : String
  weeklyKey : String
  lifetimeKey : String

def dailyTtl : Int := 172800

def weeklyTtl : Int := 691200

-- The script compares numbers of double precision.
def recordWindow (redis : Redis) (now : Int) (key : String) (amount ttl : Int) : Option Redis :=
  match redis.incrBy now key amount with
  | some (total, redis) =>
    if Number.nearest total = Number.nearest amount then some (redis.expire now key ttl) else some redis
  | none => none

def luaScript (redis : Redis) (now : Int) (keys : SpendKeys) (amount : Int) : Redis × Bool :=
  match recordWindow redis now keys.dailyKey amount dailyTtl with
  | none => (redis, false)
  | some redis =>
    match recordWindow redis now keys.weeklyKey amount weeklyTtl with
    | none => (redis, false)
    | some redis =>
      match redis.incrBy now keys.lifetimeKey amount with
      | none => (redis, false)
      | some (_, redis) => (redis, true)

end Delego.Wallet.SpendLimits
