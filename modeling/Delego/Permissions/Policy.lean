import Delego.Permissions.Spec
import Delego.Shared.Trace

set_option autoImplicit false

namespace Delego.Permissions

open Shared Soroban

-- The arguments of a grant; only `grant_with_metadata` says anything about the metadata.
structure GrantTerms where
  limitTotal : I128
  limitPerTx : I128
  allowedMerchants : List Address
  ttlLedgers : U32
  metadata : Option (Option PermissionMetadata)
  deriving DecidableEq

inductive Deed where
  | granted (terms : GrantTerms)
  | revoked
  | spent (amount : I128) (merchant : Address)
  | queued (amount : I128)
  | decreased
  | paused
  | resumed
  deriving DecidableEq

def Deed.isGrant : Deed → Bool
  | .granted _ => true
  | _ => false

structure View where
  permission : Option PermissionRecord
  pending : Option PendingAllowanceDecrement
  metadata : Option PermissionMetadata
  deriving DecidableEq

def GrantTerms.record (terms : GrantTerms) (pair : Pair) (env : Env) (expiresAtLedger : U32) :
    PermissionRecord where
  owner := pair.1
  delegate := pair.2
  limitTotal := terms.limitTotal
  spent := .lit 0
  limitPerTx := terms.limitPerTx
  allowedMerchants := terms.allowedMerchants
  status := .active
  expiresAtLedger
  createdAt := env.timestamp

inductive PairStep (pair : Pair) (env : Env) : Deed → View → View → Prop
  | granted {terms : GrantTerms} {before : View} {expiresAtLedger : U32}
      (signed : pair.1 ∈ env.signers)
      (limits : 0 < terms.limitPerTx.toInt ∧ terms.limitPerTx.toInt ≤ terms.limitTotal.toInt)
      (expiry : expiresAtLedger.toInt = env.sequence.toInt + terms.ttlLedgers.toInt) :
      PairStep pair env (.granted terms) before { before with
        permission := some (terms.record pair env expiresAtLedger)
        metadata := terms.metadata.getD before.metadata }
  | revoked {before : View} {record : PermissionRecord} (signed : pair.1 ∈ env.signers)
      (found : before.permission = some record) :
      PairStep pair env .revoked before
        { before with permission := some { record with status := .revoked }, pending := none }
  | spent {before : View} {record : PermissionRecord} {amount spent : I128} {merchant : Address}
      (signed : pair.2 ∈ env.signers) (found : before.permission = some record)
      (spendable : Spendable env record amount merchant)
      (sum : spent.toInt = record.spent.toInt + amount.toInt) :
      PairStep pair env (.spent amount merchant) before
        { before with permission := some { record with spent } }
  | queued {before : View} {record : PermissionRecord} {amount : I128} {executionTime : U64}
      (signed : pair.1 ∈ env.signers) (found : before.permission = some record)
      (free : before.pending = none)
      (delay : executionTime.toInt = env.timestamp.toInt + 86400) :
      PairStep pair env (.queued amount) before
        { before with pending := some { amount, executionTime } }
  | decreased {before : View} {record : PermissionRecord} {pending : PendingAllowanceDecrement}
      {newLimit : I128} (found : before.permission = some record)
      (queued : before.pending = some pending)
      (elapsed : pending.executionTime.toInt ≤ env.timestamp.toInt)
      (difference : newLimit.toInt = record.limitTotal.toInt - pending.amount.toInt)
      (covered : record.spent.toInt ≤ newLimit.toInt) :
      PairStep pair env .decreased before
        { before with permission := some { record with limitTotal := newLimit }, pending := none }
  | paused {before : View} {record : PermissionRecord} (signed : pair.1 ∈ env.signers)
      (found : before.permission = some record) (active : record.status = .active) :
      PairStep pair env .paused before
        { before with permission := some { record with status := .paused } }
  | resumed {before : View} {record : PermissionRecord} (signed : pair.1 ∈ env.signers)
      (found : before.permission = some record) (inactive : record.status ≠ .active) :
      PairStep pair env .resumed before
        { before with permission := some { record with status := .active } }

structure Turn where
  env : Env
  deed : Deed
  before : View
  after : View

def Turn.Grants (turn : Turn) : Prop := turn.deed.isGrant = true

instance (turn : Turn) : Decidable turn.Grants := inferInstanceAs (Decidable (_ = true))

theorem Turn.plain {turn : Turn} (plain : ¬ turn.Grants) : turn.deed.isGrant = false := by
  simpa [Turn.Grants] using plain

def View.blank : View := { permission := none, pending := none, metadata := none }

/-- The turns of a pair, newest first, each taken where the one before it ended. -/
def Follows (pair : Pair) : List Turn → View → Prop
  | [], view => view = .blank
  | turn :: older, view => view = turn.after ∧
      PairStep pair turn.env turn.deed turn.before turn.after ∧ Follows pair older turn.before

theorem Follows.before {pair : Pair} {turns newer older : List Turn} {turn : Turn} {view : View}
    (follows : Follows pair turns view) (cut : turns = newer ++ turn :: older) :
    Follows pair older turn.before ∧ PairStep pair turn.env turn.deed turn.before turn.after := by
  induction newer generalizing turns view with
  | nil =>
    subst cut
    exact ⟨follows.2.2, follows.2.1⟩
  | cons first rest ih =>
    subst cut
    exact ih follows.2.2 rfl

end Delego.Permissions
