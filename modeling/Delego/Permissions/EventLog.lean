import Delego.Permissions.Preview
import Delego.Shared.EventLog

set_option autoImplicit false

namespace Delego.Permissions

open Shared Soroban Tx Replay EventLog

/-- What the events of a permission tell about it: how many merchants it names, but not which ones. -/
structure PublicPermission where
  limitTotal : I128
  spent : I128
  limitPerTx : I128
  merchantCount : Nat
  status : PermissionStatus
  expiresAtLedger : U32
  deriving DecidableEq

structure Index where
  permission : Pair → Option PublicPermission
  grantPauseState : Option PermissionPauseState

def Index.empty : Index := ⟨fun _ => none, none⟩

def Index.revise (index : Index) (pair : Pair) (change : PublicPermission → Option PublicPermission) :
    Option Index := do
  let entry ← index.permission pair
  let revised ← change entry
  return { index with permission := Function.update index.permission pair (some revised) }

def Index.read (index : Index) : PermissionEvent → Option Index
  | .granted owner delegate perTxLimit totalLimit expiresAtLedger merchantCount =>
    if (∃ state ∈ index.grantPauseState, state.grantsPaused = true) ∨ perTxLimit.toInt ≤ 0 ∨
        totalLimit.toInt < perTxLimit.toInt then none
    else
      some { index with permission := Function.update index.permission (owner, delegate) (some
        { limitTotal := totalLimit, spent := .lit 0, limitPerTx := perTxLimit, merchantCount
          status := .active, expiresAtLedger }) }
  | .revoked owner delegate => index.revise (owner, delegate) fun entry =>
    some { entry with status := .revoked }
  | .spent owner delegate _ amount remaining => index.revise (owner, delegate) fun entry => do
    let spent ← entry.spent.checkedAdd amount
    if entry.status = .active ∧ amount.toInt ≤ entry.limitPerTx.toInt ∧ 0 ≤ remaining.toInt ∧
        remaining.toInt = entry.limitTotal.toInt - spent.toInt then some { entry with spent }
    else none
  | .allowanceDecreased owner delegate oldLimit newLimit => index.revise (owner, delegate) fun entry =>
    if entry.limitTotal = oldLimit ∧ entry.spent.toInt ≤ newLimit.toInt then
      some { entry with limitTotal := newLimit }
    else none
  | .paused owner delegate pausedBy _ => index.revise (owner, delegate) fun entry =>
    if entry.status = .active ∧ pausedBy = owner then some { entry with status := .paused } else none
  | .resumed owner delegate resumedBy => index.revise (owner, delegate) fun entry =>
    if entry.status ≠ .active ∧ resumedBy = owner then some { entry with status := .active } else none
  | .grantPauseChanged grantsPaused _ ledger =>
    some { index with grantPauseState := some { grantsPaused, updatedAtLedger := ledger } }

def PermissionRecord.told (record : PermissionRecord) : PublicPermission where
  limitTotal := record.limitTotal
  spent := record.spent
  limitPerTx := record.limitPerTx
  merchantCount := record.allowedMerchants.length
  status := record.status
  expiresAtLedger := record.expiresAtLedger

def Storage.index (s : Storage) : Index where
  permission := Option.map PermissionRecord.told ∘ s.permission
  grantPauseState := s.grantPauseState

-- The events of a run, newest first.
def eventLog (inputs : List (Invocation Call)) : List PermissionEvent := published emitted (history inputs)

structure PublicPermission.Allows (entry : PublicPermission) (env : Env) (amount : I128) : Prop where
  active : entry.status = .active
  unexpired : env.sequence.toInt < entry.expiresAtLedger.toInt
  perTx : amount.toInt ≤ entry.limitPerTx.toInt
  before : ∃ remaining, entry.limitTotal.checkedSub entry.spent = some remaining ∧
    amount.toInt ≤ remaining.toInt
  after : ∃ spent, entry.spent.checkedAdd amount = some spent ∧ (entry.limitTotal.checkedSub spent).isSome

def Spends (s : Storage) (env : Env) (owner delegate : Address) (amount : I128) (merchant : Address) : Prop :=
  ∃ value log, (step s ⟨env, .executeSpend owner delegate amount merchant⟩).1 = .ok (value, log)

/-- The events of a run tell all there is to know about its permissions, but for the merchants. -/
structure LogComplete (inputs : List (Invocation Call)) : Prop where
  followed : replay Index.read .empty (eventLog inputs) = some (final inputs).index
  meanwhile : ∀ older, older <:+ eventLog inputs → (replay Index.read .empty older).isSome
  foretold : ∀ env owner delegate amount merchant entry,
    (final inputs).index.permission (owner, delegate) = some entry →
      (Spends (final inputs) env owner delegate amount merchant →
        delegate ∈ env.signers ∧ entry.Allows env amount) ∧
      (entry.merchantCount = 0 → delegate ∈ env.signers → entry.Allows env amount →
        Spends (final inputs) env owner delegate amount merchant)
  unknown : ∀ env owner delegate amount merchant,
    (final inputs).index.permission (owner, delegate) = none →
      ¬ Spends (final inputs) env owner delegate amount merchant

section Reading

variable {s : Storage} {env : Env} {owner delegate merchant : Address} {record revised : PermissionRecord}

theorem index_update (pair : Pair) (record : PermissionRecord) :
    ({ s with permission := Function.update s.permission pair (some record) } : Storage).index =
      { s.index with permission := Function.update s.index.permission pair (some record.told) } := by
  simp [Storage.index, Function.comp_update]

theorem index_revise {pair : Pair} {change : PublicPermission → Option PublicPermission}
    (found : s.permission pair = some record) (changed : change record.told = some revised.told) :
    s.index.revise pair change =
      some ({ s with permission := Function.update s.permission pair (some revised) } : Storage).index := by
  have shown : s.index.permission pair = some record.told := by
    simp [Storage.index, found]
  simp [Index.revise, shown, changed, index_update]

theorem replay_one {before after : Index} {event : PermissionEvent} (next : before.read event = some after) :
    replay Index.read before [event] = some after := by
  simp [replay, next]

theorem perform_read {call : Call} {value : Value} {after : Frame Storage PermissionEvent}
    (done : (perform env call).Yields ⟨s, []⟩ value after) :
    replay Index.read s.index after.log.reverse = some after.state.index := by
  have granted {owner delegate : Address} {limitTotal limitPerTx : I128} {allowedMerchants : List Address}
      {ttlLedgers : U32} {u : Unit} {after : Frame Storage PermissionEvent}
      (done : (grant env owner delegate limitTotal limitPerTx allowedMerchants ttlLedgers).Yields
        ⟨s, []⟩ u after) :
      replay Index.read s.index after.log.reverse = some after.state.index := by
    obtain ⟨_, opened, _, ⟨positive, covered⟩, expiresAtLedger, _, rfl⟩ := grant_yields.mp done
    refine replay_one ?_
    rw [index_update]
    simp only [Index.read]
    rw [if_neg]
    · rfl
    · simp only [not_or, not_le, not_lt]
      exact ⟨opened, positive, covered⟩
  cases call <;> simp only [perform, yields_map] at done <;> obtain ⟨answer, done, rfl⟩ := done
  case grant => exact granted done
  case grantWithMetadata =>
    obtain ⟨_, middle, first, rfl⟩ := grantWithMetadata_yields.mp done
    have told := granted first
    exact told
  case revoke =>
    obtain ⟨_, record, found, rfl⟩ := revoke_yields.mp done
    exact replay_one (index_revise found rfl)
  case executeSpend amount _ =>
    obtain ⟨_, record, found, spendable, spent, sum, remaining, difference, rfl⟩ := executeSpend_yields.mp done
    obtain ⟨left, before, enough⟩ := spendable.total
    refine replay_one (index_revise found ?_)
    have added : record.spent.checkedAdd amount = some spent := MachineInt.checkedAdd_eq_some.mpr sum
    have audited : record.status = .active ∧ amount.toInt ≤ record.limitPerTx.toInt ∧ 0 ≤ remaining.toInt ∧
        remaining.toInt = record.limitTotal.toInt - spent.toInt :=
      ⟨spendable.active, spendable.perTx, by omega, difference⟩
    simp only [PermissionRecord.told, added, Option.bind_eq_bind, Option.bind_some]
    exact if_pos audited
  case decreaseAllowance =>
    obtain ⟨_, _, _, _, _, rfl, rfl⟩ := decreaseAllowance_yields.mp done
    rfl
  case executeDecreaseAllowance =>
    obtain ⟨pending, _, _, record, found, limit, _, covered, rfl, rfl⟩ :=
      executeDecreaseAllowance_yields.mp done
    refine replay_one (index_revise found ?_)
    simp [PermissionRecord.told, covered]
  case pause =>
    obtain ⟨_, record, found, active, rfl⟩ := pause_yields.mp done
    refine replay_one (index_revise found ?_)
    simp [PermissionRecord.told, active]
  case resume =>
    obtain ⟨_, record, found, inactive, rfl⟩ := resume_yields.mp done
    refine replay_one (index_revise found ?_)
    simp [PermissionRecord.told, inactive]
  case setAdmin =>
    obtain ⟨_, _, rfl⟩ := setAdmin_yields.mp done
    rfl
  case pauseGrants | unpauseGrants =>
    obtain ⟨_, _, rfl⟩ := setGrantsPaused_yields.mp done
    rfl
  case setAllowSelfDelegation =>
    obtain ⟨_, _, rfl⟩ := setAllowSelfDelegation_yields.mp done
    rfl

theorem eventLog_followed (inputs : List (Invocation Call)) :
    replay Index.read .empty (eventLog inputs) = some (final inputs).index := by
  have start : Storage.empty.index = Index.empty := rfl
  rw [← start]
  refine replay_published Storage.index inputs ?_
  intro input older _
  exact replay_invoke Storage.index fun value after done => perform_read done

theorem spends_iff {amount : I128} : Spends s env owner delegate amount merchant ↔
    delegate ∈ env.signers ∧ ∃ record, s.permission (owner, delegate) = some record ∧
      record.told.Allows env amount ∧
      (0 < record.allowedMerchants.length → merchant ∈ record.allowedMerchants) := by
  have performed : Spends s env owner delegate amount merchant ↔
      ∃ u after, (executeSpend env owner delegate amount merchant).Yields ⟨s, []⟩ u after := by
    constructor
    · intro spends
      obtain ⟨value, log, done⟩ := spends
      have yielded := invoke_ok.mp done
      simp only [perform, yields_map] at yielded
      obtain ⟨u, yielded, _⟩ := yielded
      exact ⟨u, _, yielded⟩
    · intro done
      obtain ⟨u, after, yielded⟩ := done
      have whole : (perform env (.executeSpend owner delegate amount merchant)).Yields ⟨s, []⟩ (.ofUnit u) after := by
        simp only [perform, yields_map]
        exact ⟨u, yielded, trivial⟩
      exact ⟨_, after.log, congrArg Prod.fst (invoke_eq_ok.mpr whole)⟩
  rw [performed]
  constructor
  · intro done
    obtain ⟨u, after, yielded⟩ := done
    obtain ⟨signed, record, found, spendable, spent, sum, remaining, difference, _⟩ :=
      executeSpend_yields.mp yielded
    obtain ⟨left, before, enough⟩ := spendable.total
    refine ⟨signed, record, found, ?_, spendable.listed⟩
    exact {
      active := spendable.active
      unexpired := spendable.unexpired
      perTx := spendable.perTx
      before := ⟨left, MachineInt.checkedSub_eq_some.mpr before, enough⟩
      after := ⟨spent, MachineInt.checkedAdd_eq_some.mpr sum,
        Option.isSome_iff_exists.mpr ⟨remaining, MachineInt.checkedSub_eq_some.mpr difference⟩⟩ }
  · intro done
    obtain ⟨signed, record, found, allows, listed⟩ := done
    obtain ⟨left, before, enough⟩ := allows.before
    obtain ⟨spent, sum, rest⟩ := allows.after
    obtain ⟨remaining, difference⟩ := Option.isSome_iff_exists.mp rest
    refine ⟨(), _, executeSpend_yields.mpr ⟨signed, record, found, ?_, spent,
      MachineInt.checkedAdd_eq_some.mp sum, remaining, MachineInt.checkedSub_eq_some.mp difference, rfl⟩⟩
    exact {
      active := allows.active
      unexpired := allows.unexpired
      perTx := allows.perTx
      total := ⟨left, MachineInt.checkedSub_eq_some.mp before, enough⟩
      listed }

end Reading

/-- Whoever follows the events of the contract knows every limit, what is left of it, and every status. -/
theorem permission_log_complete (inputs : List (Invocation Call)) : LogComplete inputs := by
  have followed := eventLog_followed inputs
  constructor
  case followed => exact followed
  case meanwhile =>
    intro older within
    exact Option.isSome_iff_exists.mpr (replay_suffix followed within)
  case foretold =>
    intro env owner delegate amount merchant entry shown
    obtain ⟨record, found, rfl⟩ := Option.map_eq_some_iff.mp shown
    constructor
    · intro spends
      obtain ⟨signed, record', found', allows, _⟩ := spends_iff.mp spends
      obtain rfl := Option.some.inj (found.symm.trans found')
      exact ⟨signed, allows⟩
    · intro unlisted signed allows
      refine spends_iff.mpr ⟨signed, record, found, allows, ?_⟩
      intro named
      exact absurd unlisted (Nat.ne_of_gt named)
  case unknown =>
    intro env owner delegate amount merchant absent spends
    obtain ⟨_, record, found, _⟩ := spends_iff.mp spends
    have shown : (final inputs).index.permission (owner, delegate) = some record.told := by
      simp [Storage.index, found]
    rw [absent] at shown
    cases shown

-- What the log of a grant, a spend and a pause tells of the pair.
example : (replay Index.read .empty (eventLog
    [ ownerCall (.lit 12) (.lit 120) (.pause samplePair.1 samplePair.2),
      sampleSpend (.lit 11) (.lit 110) (.lit 30),
      sampleGrant (.lit 10) (.lit 100) (.lit 100) (.lit 40) ])).bind (·.permission samplePair) =
    some ⟨.lit 100, .lit 30, .lit 40, 0, .paused, .lit 1010⟩ := by
  decide

end Delego.Permissions
