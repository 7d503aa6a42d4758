import Delego.Shared.Total
import Delego.Wallet.SpendCounters
import Delego.Wallet.Spending

set_option autoImplicit false

namespace Delego.Wallet.SpendLimits

open Shared Shared.Text
open TxQueue (TransactionRequest Spend Job Phase Response executeTxJob settled)

def governing (tables : Tables) (request : TransactionRequest) : Option (String × SpendLimit) := do
  let wallet := tables.wallet request
  let userId ← userIdOf request wallet
  let row ← findConfig tables.limits userId (walletIdOf request wallet) request.delegationId
  some (userId, row)

def Handling.amount (handling : Handling) : Nat := ((amountStroops handling.request).getD 0).toNat

section Measures

variable (tables : Tables) (userId : String) (row : SpendLimit) (kind : Kind) (handling : Handling)

def Handling.confirmedIn (span : Int) : Bool :=
  handling.confirmed.any fun time => kind.window.span time = span

def Handling.inFlight : Bool :=
  handling.confirmed.isNone &&
    match handling.stage with
    | .enqueuing _ | .queued _ (.waiting _) | .queued _ (.active ..) => true
    | _ => false

def Handling.governedBy : Bool := governing tables handling.request = some (userId, row)

def spent (span : Int) : Nat :=
  if handling.governedBy tables userId row && handling.confirmedIn kind span then handling.amount else 0

def awaited : Nat :=
  if handling.governedBy tables userId row && handling.inFlight then handling.amount else 0

-- What a check under a key does not see: what is in flight, and what is confirmed but not recorded there.
def hidden (span : Int) (key : String) : Nat :=
  if handling.governedBy tables userId row &&
      (handling.inFlight ||
        handling.confirmedIn kind span && handling.recorded.map kind.key != some key) then
    handling.amount
  else 0

def recordedUnder (key : String) : Nat :=
  if handling.recorded.map kind.key = some key then handling.amount else 0

end Measures

/-- The confirmed amounts of each user stay within the limits that go for them. -/
def SpendBounded (tables : Tables) (system : System) : Prop :=
  ∀ userId, ∀ row ∈ tables.limits, ∀ kind limit span, kind.limit row = some limit →
    (total (spent tables userId row kind · span) system.requests : Int) ≤ limit

def Room (tables : Tables) (system : System) (userId : String) (row : SpendLimit) (keys : SpendKeys)
    (amount : Nat) : Prop :=
  ∀ kind limit, kind.limit row = some limit →
    (total (hidden tables userId row kind · (kind.window.span system.clock) (kind.key keys))
      system.requests : Int) + amount ≤ limit - system.redis.spend system.clock (kind.key keys)

def Stage.enqueues : Stage → Prop
  | .enqueuing _ => True
  | _ => False

instance : DecidablePred Stage.enqueues
  | .enqueuing _ => .isTrue trivial
  | .finding | .checking .. | .reading .. | .refused _ | .queued .. | .recording .. => .isFalse id

theorem checkLimit_none {reason : String} {limit : Option Int} {spend amount : Int}
    (passes : checkLimit reason limit spend amount = none) :
    ∀ bound, limit = some bound → spend + amount ≤ bound := by
  rintro bound rfl
  simpa [checkLimit] using passes

theorem checkLimit_refuses {reason : String} {limit : Option Int} {spend amount : Int}
    {result : SpendCheckResult} (refused : checkLimit reason limit spend amount = some result) :
    result.allowed = false := by
  cases limit with
  | none => cases refused
  | some bound =>
    simp only [checkLimit] at refused
    split at refused
    · cases refused
      rfl
    · cases refused

theorem checkCounters_allowed {config : SpendLimit} {daily weekly lifetime amount : Int}
    (passes : (checkCounters config daily weekly lifetime amount).allowed = true) :
    checkDaily config daily amount = none ∧ checkWeekly config weekly amount = none ∧
      checkLifetime config lifetime amount = none := by
  unfold checkCounters at passes
  cases first : checkDaily config daily amount with
  | some result =>
    rw [first] at passes
    cases (checkLimit_refuses first).symm.trans passes
  | none =>
    cases second : checkWeekly config weekly amount with
    | some result =>
      rw [first, second] at passes
      cases (checkLimit_refuses second).symm.trans passes
    | none =>
      cases third : checkLifetime config lifetime amount with
      | some result =>
        rw [first, second, third] at passes
        cases (checkLimit_refuses third).symm.trans passes
      | none => exact ⟨rfl, rfl, rfl⟩

/-- Where its counters hide nothing, a check that passes has itself seen to the room. -/
theorem room_of_bare {tables : Tables} {system : System} {userId walletId : String} {config : SpendLimit}
    {keys : SpendKeys} {handling : Handling}
    (bare : ∀ kind : Kind,
      total (hidden tables userId config kind · (kind.window.span system.clock) (kind.key keys)) system.requests = 0)
    (passes : (countersRead system.redis system.clock handling.request userId walletId config keys).enqueues)
    (positive : 0 < handling.amount) : Room tables system userId config keys handling.amount := by
  have amount : (handling.amount : Int) = (amountStroops handling.request).getD 0 := by
    simp only [Handling.amount] at positive ⊢
    omega
  have counted : ∀ kind : Kind, ∀ limit, kind.limit config = some limit →
      system.redis.spend system.clock (kind.key keys) + (amountStroops handling.request).getD 0 ≤ limit := by
    unfold countersRead at passes
    dsimp only at passes
    split at passes
    next allowed =>
      obtain ⟨daily, weekly, lifetime⟩ := checkCounters_allowed allowed
      intro kind
      cases kind with
      | daily => exact checkLimit_none daily
      | weekly => exact checkLimit_none weekly
      | lifetime => exact checkLimit_none lifetime
    next => cases passes
  intro kind limit limited
  have within := counted kind limit limited
  rw [bare kind, amount]
  omega

/-- A limited request is checked, and where its check passes, the room that the limit leaves above the
counter also has place for what the counter does not show. -/
def Admissible (tables : Tables) (system : System) : Input → Prop
  | .act id action => ∀ handling userId row, system.requests[id]? = some handling →
    governing tables handling.request = some (userId, row) →
      match handling.stage, action with
      | .finding, .findWallet answered =>
        answered = true ∧ (walletIdOf handling.request (tables.wallet handling.request)).isSome
      | .checking .., .findLimit answered _ => answered = true
      | .reading userId walletId config keys, .readCounters answered => answered = true ∧
        ((countersRead system.redis system.clock handling.request userId walletId config keys).enqueues →
          0 < handling.amount → Room tables system userId config keys handling.amount)
      | _, _ => True
  | _ => True

end Delego.Wallet.SpendLimits
