import Delego.Escrow.Step

set_option autoImplicit false

namespace Delego.Escrow

open Shared Soroban Tx

variable {host : Host}

/-- The part of the storage that the admins govern: who they are, and the terms for everyone else. -/
structure Charter where
  admin : Option Address
  pendingAdmin : Option Address
  coAdmins : List Address
  tokens : List Address
  allowed : Address → Bool
  feeConfig : Option FeeConfig
  amountLimits : Option EscrowAmountLimits
  quorumConfig : Option QuorumConfig
  pauseState : Option EscrowPauseState

def Storage.charter (s : Storage) : Charter where
  admin := s.admin
  pendingAdmin := s.pendingAdmin
  coAdmins := s.adminList.getD []
  tokens := listTokens s
  allowed := isTokenAllowed s
  feeConfig := s.feeConfig
  amountLimits := s.amountLimits
  quorumConfig := s.quorumConfig
  pauseState := s.pauseState

def Charter.IsAdmin (charter : Charter) (address : Address) : Prop :=
  ∃ primary, charter.admin = some primary ∧ (address = primary ∨ address ∈ charter.coAdmins)

theorem isAdmin_iff {s : Storage} {address : Address} :
    isAdmin s address = true ↔ s.charter.IsAdmin address := by
  cases stored : s.admin with
  | none => simp [isAdmin, Charter.IsAdmin, Storage.charter, stored]
  | some primary => simp [isAdmin, Charter.IsAdmin, Storage.charter, stored]

def Call.governs : Call → Bool
  | .initializeContract .. | .proposeAdmin .. | .acceptAdmin _ | .cancelAdminTransfer _
  | .addCoAdmin .. | .removeCoAdmin .. | .addToken .. | .removeToken .. | .setLimits ..
  | .updateFee .. | .setQuorumConfig .. | .setCreatePaused .. => true
  | _ => false

theorem Call.ne_of_plain {call other : Call} (plain : call.governs = false)
    (governing : other.governs = true) : call ≠ other := by
  intro same
  subst same
  cases plain.symm.trans governing

/-- What a successful call does to the charter, guards included. -/
inductive Decree (env : Env) : Call → Charter → Charter → Prop
  | initialized {before : Charter} {admin treasury : Address} {feeBps : U32}
      {minAmount maxAmount : I128} (fresh : before.admin = none) (bound : feeBps.toInt ≤ 1000)
      (ordered : 0 < minAmount.toInt ∧ minAmount.toInt ≤ maxAmount.toInt) :
      Decree env (.initializeContract admin feeBps treasury minAmount maxAmount) before
        { before with
          admin := some admin
          feeConfig := some { feeBps, treasury }
          amountLimits := some { minAmount, maxAmount } }
  | proposed {before : Charter} {currentAdmin newAdmin : Address}
      (signed : currentAdmin ∈ env.signers) (primary : before.admin = some currentAdmin) :
      Decree env (.proposeAdmin currentAdmin newAdmin) before
        { before with pendingAdmin := some newAdmin }
  | accepted {before : Charter} {newAdmin : Address} (signed : newAdmin ∈ env.signers)
      (pending : before.pendingAdmin = some newAdmin) :
      Decree env (.acceptAdmin newAdmin) before
        { before with
          admin := some newAdmin
          pendingAdmin := none
          coAdmins := before.coAdmins.erase newAdmin }
  | cancelled {before : Charter} {currentAdmin : Address} (signed : currentAdmin ∈ env.signers)
      (primary : before.admin = some currentAdmin) (pending : before.pendingAdmin ≠ none) :
      Decree env (.cancelAdminTransfer currentAdmin) before { before with pendingAdmin := none }
  | added {before : Charter} {admin newCoAdmin : Address} (signed : admin ∈ env.signers)
      (primary : before.admin = some admin) (other : newCoAdmin ≠ admin)
      (new : newCoAdmin ∉ before.coAdmins) :
      Decree env (.addCoAdmin admin newCoAdmin) before
        { before with coAdmins := before.coAdmins ++ [newCoAdmin] }
  | removed {before : Charter} {admin coAdmin : Address} (signed : admin ∈ env.signers)
      (primary : before.admin = some admin) (member : coAdmin ∈ before.coAdmins) :
      Decree env (.removeCoAdmin admin coAdmin) before
        { before with coAdmins := before.coAdmins.erase coAdmin }
  | listed {before : Charter} {admin tokenAddress : Address} (signed : admin ∈ env.signers)
      (entitled : before.IsAdmin admin) (new : before.allowed tokenAddress = false) :
      Decree env (.addToken admin tokenAddress) before
        { before with
          tokens := before.tokens ++ [tokenAddress]
          allowed := Function.update before.allowed tokenAddress true }
  | relisted {before : Charter} {admin tokenAddress : Address} (signed : admin ∈ env.signers)
      (entitled : before.IsAdmin admin) (old : before.allowed tokenAddress = true) :
      Decree env (.addToken admin tokenAddress) before before
  | delisted {before : Charter} {admin tokenAddress : Address} (signed : admin ∈ env.signers)
      (entitled : before.IsAdmin admin) :
      Decree env (.removeToken admin tokenAddress) before
        { before with
          tokens := before.tokens.erase tokenAddress
          allowed := Function.update before.allowed tokenAddress false }
  | limited {before : Charter} {admin : Address} {minAmount maxAmount : I128}
      (signed : admin ∈ env.signers) (entitled : before.IsAdmin admin)
      (ordered : 0 < minAmount.toInt ∧ minAmount.toInt ≤ maxAmount.toInt) :
      Decree env (.setLimits admin minAmount maxAmount) before
        { before with amountLimits := some { minAmount, maxAmount } }
  | charged {before : Charter} {admin : Address} {newFeeBps : U32} {config : FeeConfig}
      (signed : admin ∈ env.signers) (entitled : before.IsAdmin admin)
      (bound : newFeeBps.toInt ≤ 1000) (configured : before.feeConfig = some config) :
      Decree env (.updateFee admin newFeeBps) before
        { before with feeConfig := some { config with feeBps := newFeeBps } }
  | arbitrated {before : Charter} {admin : Address} {arbiters : List Address} {threshold : U32}
      (signed : admin ∈ env.signers) (entitled : before.IsAdmin admin)
      (reachable : threshold.toInt ≠ 0 ∧ threshold.toInt ≤ arbiters.length)
      (distinct : arbiters.Nodup) :
      Decree env (.setQuorumConfig admin arbiters threshold) before
        { before with quorumConfig := some { arbiters, threshold } }
  | halted {before : Charter} {admin : Address} {paused : Bool} (signed : admin ∈ env.signers)
      (entitled : before.IsAdmin admin) :
      Decree env (.setCreatePaused admin paused) before
        { before with pauseState := some ⟨paused, admin, env.sequence⟩ }
  | none {call : Call} {before : Charter} (plain : call.governs = false) :
      Decree env call before before

theorem Decree.of_eq {env : Env} {call : Call} {before after after' : Charter}
    (decree : Decree env call before after) (same : after' = after) : Decree env call before after' :=
  same ▸ decree

theorem allowed_update {s s' : Storage} {tokenAddress : Address} {enabled : Bool}
    (flag : s'.tokenEnabled = Function.update s.tokenEnabled tokenAddress (some enabled)) :
    isTokenAllowed s' = Function.update (isTokenAllowed s) tokenAddress enabled := by
  funext other
  by_cases same : other = tokenAddress <;> simp [isTokenAllowed, flag, same]

-- The source rewrites a list only when it holds the address, and then takes the first one out.
theorem erased_getD (stored : Option (List Address)) (address : Address) :
    (if address ∈ stored.getD [] then some ((stored.getD []).erase address) else stored).getD [] =
      (stored.getD []).erase address := by
  split
  · rfl
  · rename_i absent
    exact (List.erase_of_not_mem absent).symm

theorem settled_charter {before after : Frame (Chain host) EscrowEvent} {escrowId : U64}
    {record : EscrowRecord} {side answer : Bool} {caller : Address}
    (done : (settleDispute escrowId record side caller : EscrowTx host Bool).Yields before answer after) :
    after.state.storage.charter = before.state.storage.charter := by
  obtain ⟨_, _, settled, rfl, rfl⟩ := settleDispute_yields.mp done
  rcases yields_settle.mp settled with ⟨_, _, _, paid, stored⟩ | ⟨_, _, paid, stored⟩
  · obtain ⟨_, _, _, _, _, _, _, rfl⟩ := yields_payToSeller.mp paid
    cases yields_setStatus.mp stored
    rfl
  · obtain ⟨_, _, rfl⟩ := yields_payToBuyer.mp paid
    cases yields_setStatus.mp stored
    rfl

theorem perform_decree {env : Env} {call : Call} {chain : Chain host} {value : Value}
    {after : Frame (Chain host) EscrowEvent}
    (done : (perform env call : EscrowTx host Value).Yields ⟨chain, []⟩ value after) :
    Decree env call chain.storage.charter after.state.storage.charter := by
  cases call <;> simp only [perform, yields_map] at done <;> obtain ⟨answer, done, rfl⟩ := done
  case initializeContract =>
    obtain ⟨fresh, bound, ordered, rfl, rfl⟩ := initializeContract_yields.mp done
    exact .initialized fresh bound ordered
  case setLimits =>
    obtain ⟨signed, admin, ordered, rfl, rfl⟩ := setLimits_yields.mp done
    exact .limited signed (isAdmin_iff.mp admin) ordered
  case setQuorumConfig =>
    obtain ⟨signed, admin, reachable, distinct, rfl, rfl⟩ := setQuorumConfig_yields.mp done
    exact .arbitrated signed (isAdmin_iff.mp admin) reachable distinct
  case voteDispute =>
    obtain ⟨_, _, _, _, _, _, _, _, rfl, rfl⟩ := voteDispute_yields.mp done
    exact .none rfl
  case resolveDisputeQuorum =>
    obtain ⟨_, _, _, _, _, _, _, _, done⟩ := resolveDisputeQuorum_yields.mp done
    rw [settled_charter done]
    exact .none rfl
  case updateFee =>
    obtain ⟨signed, admin, bound, config, configured, rfl, rfl⟩ := updateFee_yields.mp done
    exact .charged signed (isAdmin_iff.mp admin) bound configured
  case addToken =>
    obtain ⟨signed, admin, ⟨new, rfl⟩ | ⟨old, rfl⟩, rfl⟩ := addToken_yields.mp done
    · refine Decree.of_eq (.listed signed (isAdmin_iff.mp admin) new) ?_
      rw [Storage.charter, allowed_update rfl]
      rfl
    · exact .relisted signed (isAdmin_iff.mp admin) old
  case removeToken =>
    obtain ⟨signed, admin, rfl, rfl⟩ := removeToken_yields.mp done
    refine Decree.of_eq (.delisted signed (isAdmin_iff.mp admin)) ?_
    rw [Storage.charter, allowed_update rfl, listTokens, listTokens, erased_getD]
    rfl
  case deposit =>
    obtain ⟨_, _, _, _, _, _, _, _, _, _, _, _, _, rfl⟩ := deposit_yields.mp done
    exact .none rfl
  case release =>
    obtain ⟨_, _, _, _, _, _, _, paid, rfl, rfl⟩ := release_yields.mp done
    obtain ⟨_, _, _, _, _, _, _, rfl⟩ := yields_payToSeller.mp paid
    exact .none rfl
  case refund =>
    obtain ⟨_, _, _, _, _, _, _, paid, rfl, rfl⟩ := refund_yields.mp done
    obtain ⟨_, _, rfl⟩ := yields_payToBuyer.mp paid
    exact .none rfl
  case dispute =>
    obtain ⟨_, _, _, _, _, rfl, rfl⟩ := dispute_yields.mp done
    exact .none rfl
  case resolveDispute =>
    obtain ⟨_, _, _, _, _, done⟩ := resolveDispute_yields.mp done
    rw [settled_charter done]
    exact .none rfl
  case proposeAdmin =>
    obtain ⟨signed, primary, rfl, rfl⟩ := proposeAdmin_yields.mp done
    exact .proposed signed primary
  case acceptAdmin =>
    obtain ⟨signed, pending, rfl, rfl⟩ := acceptAdmin_yields.mp done
    refine Decree.of_eq (.accepted signed pending) ?_
    rw [Storage.charter, erased_getD]
    rfl
  case cancelAdminTransfer =>
    obtain ⟨signed, primary, pending, rfl, rfl⟩ := cancelAdminTransfer_yields.mp done
    exact .cancelled signed primary pending
  case addCoAdmin =>
    obtain ⟨signed, primary, other, new, rfl, rfl⟩ := addCoAdmin_yields.mp done
    exact .added signed primary other new
  case removeCoAdmin =>
    obtain ⟨signed, primary, member, rfl, rfl⟩ := removeCoAdmin_yields.mp done
    exact .removed signed primary member
  case setCreatePaused =>
    obtain ⟨signed, admin, rfl, rfl⟩ := setCreatePaused_yields.mp done
    exact .halted signed (isAdmin_iff.mp admin)

def succeeded (receipt : EscrowReceipt host) : Option (Invocation Call) :=
  (accepted receipt).map Prod.fst

inductive Governed (receipt : EscrowReceipt host) : Prop
  | decree {invocation : Invocation Call} (done : succeeded receipt = some invocation)
      (decree : Decree invocation.env invocation.call receipt.before.storage.charter
        receipt.after.storage.charter)
  | idle (none : succeeded receipt = none)
      (same : receipt.after.storage.charter = receipt.before.storage.charter)

theorem observe_governed (chain : Chain host) (input : Input host) :
    Governed (Run.observe (step host) chain input) := by
  cases input with
  | elsewhere ledger => exact .idle rfl rfl
  | call invocation =>
    cases result : (invoke (perform invocation.env invocation.call) chain).1 with
    | error fault =>
      refine .idle ?_ ?_
      · simp [succeeded, accepted, Run.observe, step, result]
      · exact congrArg (fun chain => chain.storage.charter) (invoke_error result)
    | ok returned =>
      refine .decree ?_ (perform_decree (invoke_ok.mp result))
      simp [succeeded, accepted, Run.observe, step, result]

end Delego.Escrow
