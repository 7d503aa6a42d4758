import Delego.Escrow.Governance
import Delego.Shared.Trace

set_option autoImplicit false

namespace Delego.Escrow

open Shared Soroban

variable {host : Host} {past : List (EscrowReceipt host)} {receipt : EscrowReceipt host}
  {charter after : Charter} {env : Env} {call : Call} {token : Address}

def Lists (token : Address) (receipt : EscrowReceipt host) : Prop :=
  ∃ env admin, succeeded receipt = some ⟨env, .addToken admin token⟩

def Delists (token : Address) (receipt : EscrowReceipt host) : Prop :=
  ∃ env admin, succeeded receipt = some ⟨env, .removeToken admin token⟩

def Concerns (token : Address) (receipt : EscrowReceipt host) : Prop :=
  Lists token receipt ∨ Delists token receipt

def LastListed (past : List (EscrowReceipt host)) (token : Address) : Prop :=
  ∃ since receipt, LastMarked (Concerns token) past since receipt ∧ Lists token receipt

structure Whitelisted (past : List (EscrowReceipt host)) (charter : Charter) : Prop where
  distinct : charter.tokens.Nodup
  flagged : ∀ token, token ∈ charter.tokens ↔ charter.allowed token = true
  last : ∀ token, charter.allowed token = true ↔ LastListed past token

theorem deployed_whitelisted (ledger : host.Ledger) :
    Whitelisted ([] : List (EscrowReceipt host)) (deployed ledger).storage.charter where
  distinct := by simp [deployed, Storage.charter, Storage.empty, listTokens]
  flagged := by simp [deployed, Storage.charter, Storage.empty, listTokens, isTokenAllowed]
  last token := by
    simp only [deployed, Storage.charter, Storage.empty, isTokenAllowed, Option.getD_none,
      Bool.false_eq_true, false_iff]
    intro listed
    obtain ⟨_, _, last, _⟩ := listed
    exact last.not_nil

theorem lastListed_other (other : ¬ Concerns token receipt) :
    LastListed (receipt :: past) token ↔ LastListed past token :=
  LastMarked.exists_cons other

theorem lastListed_here (concerned : Concerns token receipt) :
    LastListed (receipt :: past) token ↔ Lists token receipt :=
  LastMarked.exists_here concerned

theorem Whitelisted.extend (listed : Whitelisted past charter)
    (other : ∀ token, ¬ Concerns token receipt) : Whitelisted (receipt :: past) charter where
  distinct := listed.distinct
  flagged := listed.flagged
  last token := by rw [lastListed_other (other token), listed.last]

theorem not_concerns (done : succeeded receipt = some ⟨env, call⟩)
    (add : ∀ admin, call ≠ .addToken admin token) (remove : ∀ admin, call ≠ .removeToken admin token) :
    ¬ Concerns token receipt := by
  intro concerned
  rcases concerned with ⟨_, admin, same⟩ | ⟨_, admin, same⟩
  · cases done.symm.trans same
    exact add admin rfl
  · cases done.symm.trans same
    exact remove admin rfl

theorem lists_added {admin : Address} (done : succeeded receipt = some ⟨env, .addToken admin token⟩) :
    Lists token receipt := ⟨env, admin, done⟩

theorem not_lists_removed {admin : Address}
    (done : succeeded receipt = some ⟨env, .removeToken admin token⟩) : ¬ Lists token receipt := by
  intro lists
  obtain ⟨_, _, same⟩ := lists
  cases done.symm.trans same

theorem decree_whitelisted (decree : Decree env call charter after)
    (listed : Whitelisted past charter) (done : succeeded receipt = some ⟨env, call⟩) :
    Whitelisted (receipt :: past) after := by
  cases decree with
  | @listed _ admin added _ _ new =>
    have absent : added ∉ charter.tokens := by simp [listed.flagged, new]
    constructor
    case distinct => exact List.concat_eq_append ▸ listed.distinct.concat absent
    case flagged =>
      intro token
      by_cases same : token = added
      · simp [same]
      · simp [same, listed.flagged]
    case last =>
      intro token
      by_cases same : token = added
      · subst same
        simp [lastListed_here (.inl (lists_added done)), lists_added done]
      · have other : ¬ Concerns token receipt := not_concerns done (by simp [Ne.symm same]) (by simp)
        simp [lastListed_other other, Function.update_of_ne same, listed.last]
  | @relisted _ admin added _ _ old =>
    constructor
    case distinct => exact listed.distinct
    case flagged => exact listed.flagged
    case last =>
      intro token
      by_cases same : token = added
      · subst same
        simp [lastListed_here (.inl (lists_added done)), lists_added done, old]
      · have other : ¬ Concerns token receipt := not_concerns done (by simp [Ne.symm same]) (by simp)
        rw [lastListed_other other, listed.last]
  | @delisted _ admin removed =>
    constructor
    case distinct => exact listed.distinct.erase removed
    case flagged =>
      intro token
      rw [listed.distinct.mem_erase_iff]
      by_cases same : token = removed
      · simp [same]
      · simp [same, listed.flagged]
    case last =>
      intro token
      by_cases same : token = removed
      · subst same
        simp [lastListed_here (.inr ⟨_, _, done⟩), not_lists_removed done]
      · have other : ¬ Concerns token receipt := not_concerns done (by simp) (by simp [Ne.symm same])
        simp [lastListed_other other, Function.update_of_ne same, listed.last]
  | initialized | proposed | accepted | cancelled | added | removed | limited | charged | arbitrated
  | halted =>
    have kept := listed.extend fun token => not_concerns done (by simp) (by simp)
    exact { kept with }
  | none plain =>
    refine listed.extend fun token => not_concerns done ?_ ?_
    · intro admin
      exact Call.ne_of_plain plain rfl
    · intro admin
      exact Call.ne_of_plain plain rfl

theorem receipt_whitelisted (governed : Governed receipt)
    (listed : Whitelisted past receipt.before.storage.charter) :
    Whitelisted (receipt :: past) receipt.after.storage.charter := by
  cases governed with
  | decree done decree => exact decree_whitelisted decree listed done
  | idle none same =>
    rw [same]
    refine listed.extend fun token => ?_
    simp [Concerns, Lists, Delists, none]

theorem history_whitelisted (ledger : host.Ledger) (inputs : List (Input host)) :
    Whitelisted (Run.history (step host) (deployed ledger) inputs)
      (Run.final (step host) (deployed ledger) inputs).storage.charter := by
  apply Run.invariant (step host) (deployed ledger) fun past chain =>
    Whitelisted past chain.storage.charter
  · exact deployed_whitelisted ledger
  · intro past chain input listed
    exact receipt_whitelisted (observe_governed chain input) listed

/-- Over every run the token list and the token flags name the same tokens, each once: those whose
last successful call was an `add_token`. -/
theorem escrow_whitelist (host : Host) (ledger : host.Ledger) (inputs : List (Input host)) :
    (listTokens (Run.final (step host) (deployed ledger) inputs).storage).Nodup ∧
      ∀ token,
        (token ∈ listTokens (Run.final (step host) (deployed ledger) inputs).storage ↔
          isTokenAllowed (Run.final (step host) (deployed ledger) inputs).storage token = true) ∧
        (isTokenAllowed (Run.final (step host) (deployed ledger) inputs).storage token = true ↔
          LastListed (Run.history (step host) (deployed ledger) inputs) token) := by
  have listed := history_whitelisted ledger inputs
  exact ⟨listed.distinct, fun token => ⟨listed.flagged token, listed.last token⟩⟩

end Delego.Escrow
