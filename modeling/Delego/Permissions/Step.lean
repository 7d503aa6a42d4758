import Delego.Permissions.Policy
import Delego.Shared.Run

set_option autoImplicit false

namespace Delego.Permissions

open Shared Soroban Tx

def Call.deed : Call → Option (Pair × Deed)
  | .grant owner delegate limitTotal limitPerTx allowedMerchants ttlLedgers =>
    some ((owner, delegate),
      .granted { limitTotal, limitPerTx, allowedMerchants, ttlLedgers, metadata := none })
  | .grantWithMetadata owner delegate limitTotal limitPerTx allowedMerchants ttlLedgers metadata =>
    some ((owner, delegate),
      .granted { limitTotal, limitPerTx, allowedMerchants, ttlLedgers, metadata := some metadata })
  | .revoke owner delegate => some ((owner, delegate), .revoked)
  | .executeSpend owner delegate amount merchant => some ((owner, delegate), .spent amount merchant)
  | .decreaseAllowance owner delegate amount => some ((owner, delegate), .queued amount)
  | .executeDecreaseAllowance owner delegate => some ((owner, delegate), .decreased)
  | .pause owner delegate => some ((owner, delegate), .paused)
  | .resume owner delegate => some ((owner, delegate), .resumed)
  | .setAdmin _ | .pauseGrants _ | .unpauseGrants _ | .setAllowSelfDelegation .. => none

def Storage.view (s : Storage) (pair : Pair) : View where
  permission := s.permission pair
  pending := s.pendingDecrement pair
  metadata := s.metadata pair

/-- A successful call does its deed to the pair it names and leaves every other pair alone. -/
inductive Effect (env : Env) (before after : Storage) : Option (Pair × Deed) → Prop
  | touched {pair : Pair} {deed : Deed}
      (step : PairStep pair env deed (before.view pair) (after.view pair))
      (frame : ∀ other, other ≠ pair → after.view other = before.view other) :
      Effect env before after (some (pair, deed))
  | untouched (frame : ∀ pair, after.view pair = before.view pair) : Effect env before after none

theorem touched_at {env : Env} {before after : Storage} {pair : Pair} {deed : Deed} {view : View}
    (step : PairStep pair env deed (before.view pair) view)
    (permission : after.permission = Function.update before.permission pair view.permission)
    (pending : after.pendingDecrement = Function.update before.pendingDecrement pair view.pending)
    (metadata : after.metadata = Function.update before.metadata pair view.metadata) :
    Effect env before after (some (pair, deed)) := by
  have here : after.view pair = view := by
    simp [Storage.view, permission, pending, metadata]
  refine .touched (here ▸ step) ?_
  intro other different
  simp [Storage.view, permission, pending, metadata, different]

theorem perform_effect {env : Env} {call : Call} {s : Storage} {value : Value}
    {after : Frame Storage PermissionEvent} (done : (perform env call).Yields ⟨s, []⟩ value after) :
    Effect env s after.state call.deed := by
  cases call <;> simp only [perform, yields_map] at done <;> obtain ⟨answer, done, rfl⟩ := done
  case grant =>
    obtain ⟨signed, _, _, limits, expiresAtLedger, expiry, rfl⟩ := grant_yields.mp done
    exact touched_at (.granted signed limits expiry) rfl (by simp [Storage.view]) (by simp [Storage.view])
  case grantWithMetadata =>
    obtain ⟨_, middle, granted, rfl⟩ := grantWithMetadata_yields.mp done
    obtain ⟨signed, _, _, limits, expiresAtLedger, expiry, rfl⟩ := grant_yields.mp granted
    exact touched_at (.granted signed limits expiry) rfl (by simp [Storage.view]) rfl
  case revoke =>
    obtain ⟨signed, record, found, rfl⟩ := revoke_yields.mp done
    exact touched_at (.revoked signed found) rfl rfl (by simp [Storage.view])
  case executeSpend =>
    obtain ⟨signed, record, found, spendable, spent, sum, _, _, rfl⟩ := executeSpend_yields.mp done
    exact touched_at (.spent signed found spendable sum) rfl (by simp [Storage.view]) (by simp [Storage.view])
  case decreaseAllowance =>
    obtain ⟨signed, ⟨record, found⟩, free, time, delay, rfl, rfl⟩ := decreaseAllowance_yields.mp done
    exact touched_at (.queued signed found free delay) (by simp [Storage.view]) rfl (by simp [Storage.view])
  case executeDecreaseAllowance =>
    obtain ⟨pending, queued, elapsed, record, found, limit, difference, covered, rfl, rfl⟩ :=
      executeDecreaseAllowance_yields.mp done
    exact touched_at (.decreased found queued elapsed difference covered) rfl rfl (by simp [Storage.view])
  case pause =>
    obtain ⟨signed, record, found, active, rfl⟩ := pause_yields.mp done
    exact touched_at (.paused signed found active) rfl (by simp [Storage.view]) (by simp [Storage.view])
  case resume =>
    obtain ⟨signed, record, found, inactive, rfl⟩ := resume_yields.mp done
    exact touched_at (.resumed signed found inactive) rfl (by simp [Storage.view]) (by simp [Storage.view])
  case setAdmin =>
    obtain ⟨_, _, rfl⟩ := setAdmin_yields.mp done
    exact .untouched fun _ => rfl
  case pauseGrants | unpauseGrants =>
    obtain ⟨_, _, rfl⟩ := setGrantsPaused_yields.mp done
    exact .untouched fun _ => rfl
  case setAllowSelfDelegation =>
    obtain ⟨_, _, rfl⟩ := setAllowSelfDelegation_yields.mp done
    exact .untouched fun _ => rfl

abbrev PermissionOutcome := Outcome PermissionEvent PermissionError Value

abbrev CallReceipt := Receipt Storage (Invocation Call) PermissionOutcome

def step (s : Storage) (invocation : Invocation Call) : PermissionOutcome × Storage :=
  invoke (perform invocation.env invocation.call) s

def history (inputs : List (Invocation Call)) : List CallReceipt := Run.history step .empty inputs

def final (inputs : List (Invocation Call)) : Storage := Run.final step .empty inputs

def turnOf (pair : Pair) (receipt : CallReceipt) : Option Turn :=
  match receipt.output, receipt.input.call.deed with
  | .ok _, some (named, deed) =>
    if named = pair then
      some { env := receipt.input.env, deed, before := receipt.before.view pair
             after := receipt.after.view pair }
    else none
  | _, _ => none

def turnsOf (pair : Pair) (receipts : List CallReceipt) : List Turn := receipts.filterMap (turnOf pair)

inductive Observed (pair : Pair) (receipt : CallReceipt) : Prop
  | turn {turn : Turn} (took : turnOf pair receipt = some turn)
      (before : turn.before = receipt.before.view pair) (after : turn.after = receipt.after.view pair)
      (step : PairStep pair turn.env turn.deed turn.before turn.after)
  | idle (none : turnOf pair receipt = none) (same : receipt.after.view pair = receipt.before.view pair)

theorem observe_observed (pair : Pair) (s : Storage) (invocation : Invocation Call) :
    Observed pair (Run.observe step s invocation) := by
  cases result : (step s invocation).1 with
  | error fault =>
    refine .idle ?_ ?_
    · simp [turnOf, Run.observe, result]
    · exact congrArg (fun s => Storage.view s pair) (invoke_error result)
  | ok returned =>
    have effect := perform_effect (invoke_ok.mp result)
    cases named : invocation.call.deed with
    | none =>
      rw [named] at effect
      cases effect with
      | untouched frame =>
        refine .idle ?_ (frame pair)
        simp [turnOf, Run.observe, result, named]
    | some target =>
      rw [named] at effect
      cases effect with
      | @touched target deed taken frame =>
        by_cases same : target = pair
        · subst same
          have took : turnOf target (Run.observe step s invocation) =
              some { env := invocation.env, deed, before := s.view target
                     after := (step s invocation).2.view target } := by
            simp [turnOf, Run.observe, result, named]
          exact .turn took rfl rfl taken
        · refine .idle ?_ (frame pair (Ne.symm same))
          simp [turnOf, Run.observe, result, named, same]

/-- Seen from one pair, every run of the contract is a run of that pair's turns alone. -/
theorem history_follows (pair : Pair) (inputs : List (Invocation Call)) :
    Follows pair (turnsOf pair (history inputs)) ((final inputs).view pair) := by
  apply Run.invariant step .empty fun past s => Follows pair (turnsOf pair past) (s.view pair)
  · rfl
  · intro past s input follows
    cases observe_observed pair s input with
    | turn took before after step =>
      rw [turnsOf, List.filterMap_cons_some took]
      exact ⟨after.symm, step, before ▸ follows⟩
    | idle none same =>
      rw [turnsOf, List.filterMap_cons_none none]
      exact same.symm ▸ follows

-- The owner 1 and its delegate 2; merchants from 3 on.
def samplePair : Pair := (.sample 1, .sample 2)

def ownerCall (sequence : U32) (timestamp : U64) (call : Call) : Invocation Call :=
  ⟨{ sequence, timestamp, signers := [samplePair.1] }, call⟩

def sampleGrant (sequence : U32) (timestamp : U64) (limitTotal limitPerTx : I128) : Invocation Call :=
  ownerCall sequence timestamp
    (.grant samplePair.1 samplePair.2 limitTotal limitPerTx [] (.lit 1000))

def sampleSpend (sequence : U32) (timestamp : U64) (amount : I128) : Invocation Call :=
  ⟨{ sequence, timestamp, signers := [samplePair.2] },
    .executeSpend samplePair.1 samplePair.2 amount (.sample 3)⟩

end Delego.Permissions
