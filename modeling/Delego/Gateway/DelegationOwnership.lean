import Delego.Shared.Pieces
import Delego.Gateway.Delegations
import Mathlib.Data.List.Nodup

set_option autoImplicit false

namespace Delego.Gateway.Delegations

open Shared Shared.Text

inductive Verdict where
  | reply (status : Nat) (code message : String)
  | next
  deriving DecidableEq

namespace Verdict

def status : Verdict → Option Nat
  | .reply status _ _ => some status
  | .next => none

def unauthorized (message : String) : Verdict := .reply 401 "UNAUTHORIZED" message

def forbidden (message : String) : Verdict := .reply 403 "FORBIDDEN" message

def notFound (message : String) : Verdict := .reply 404 "NOT_FOUND" message

def internalError (message : String) : Verdict := .reply 500 "INTERNAL_ERROR" message

end Verdict

structure DelegationOwnershipCheck where
  userId : String
  delegationId : String
  owned : Bool
  deriving DecidableEq

def DelegationTable.find (table : DelegationTable) (id : String) : Option Delegation :=
  table.rows.find? fun row => row.id = id

section Checks

variable (uuid : UuidReader) (table : DelegationTable)

def findOne (delegationId : String) : Except String (Option Delegation) :=
  match uuid delegationId with
  | none => .error (invalidUuid delegationId)
  | some id => .ok (table.find id)

def checkDelegationOwnership (userId delegationId : String) : Except String DelegationOwnershipCheck :=
  match findOne uuid table delegationId with
  | .error message => .error message
  | .ok none => .ok ⟨userId, delegationId, false⟩
  | .ok (some delegation) => .ok ⟨userId, delegation.id, delegation.userId = userId⟩

-- What stands after the last slash of a path.
def lastSegment (pathname : String) : String := String.ofList ((pieces '/' pathname).getLastD [])

def verifyDelegationOwnership (auth : AuthContext) (pathname : String) :
    Option DelegationOwnershipCheck × Verdict :=
  match truthy auth.userId with
  | none => (none, .unauthorized "Authentication required")
  | some userId =>
    if lastSegment pathname = "" then (none, .notFound "Delegation ID not provided")
    else
      match findOne uuid table (lastSegment pathname) with
      | .error _ => (none, .forbidden "Failed to verify delegation ownership")
      | .ok none => (none, .notFound "Delegation not found")
      | .ok (some delegation) =>
        let ownershipCheck := ⟨userId, delegation.id, delegation.userId = userId⟩
        (some ownershipCheck,
          if ownershipCheck.owned then .next
          else .forbidden "You do not have permission to modify this delegation")

def updateFailure (message : String) : Verdict :=
  if message = "Delegation not found" then .notFound message else .internalError message

def revokeFailure (message : String) : Verdict := .internalError message

/-- How `updateDelegationHandler` and `revokeDelegationHandler` begin. -/
def verifyOwnership (failure : String → Verdict) (auth : AuthContext) (id : String) : Verdict :=
  match truthy auth.userId with
  | none => .unauthorized "Authentication required"
  | some userId =>
    match checkDelegationOwnership uuid table userId id with
    | .error message => failure message
    | .ok ownership =>
      if ownership.owned then .next
      else if ownership.delegationId = id then
        .forbidden "You do not have permission to modify this delegation"
      else .notFound "Delegation not found"

def routeId (pathname : String) : Option String :=
  match pieces '/' pathname with
  | [start, api, v1, delegations, id] =>
    if start = [] ∧ api = "api".toList ∧ v1 = "v1".toList ∧ delegations = "delegations".toList ∧ id ≠ [] then
      some (String.ofList id)
    else none
  | _ => none

def ownershipStatus (userId id : String) : Option Nat :=
  match (uuid id).bind table.find with
  | none => some 404
  | some delegation => if delegation.userId = userId then none else some 403

structure ChecksAgree (auth : AuthContext) (userId pathname id : String) : Prop where
  middleware : (verifyDelegationOwnership uuid table auth pathname).2.status = ownershipStatus uuid table userId id
  update : (verifyOwnership uuid table updateFailure auth id).status =
    (verifyDelegationOwnership uuid table auth pathname).2.status
  revoke : (verifyOwnership uuid table revokeFailure auth id).status =
    (verifyDelegationOwnership uuid table auth pathname).2.status

end Checks

section Agreement

variable {uuid : UuidReader} {table : DelegationTable} {pathname id userId : String} {auth : AuthContext}
  {delegation : Delegation}

theorem routeId_some (routed : routeId pathname = some id) : lastSegment pathname = id ∧ id ≠ "" := by
  unfold routeId at routed
  split at routed
  · next start api v1 delegations last cut =>
    split at routed
    · next matched =>
      cases routed
      refine ⟨?_, ?_⟩
      · simp [lastSegment, cut]
      · intro empty
        exact matched.2.2.2.2 (String.ofList_eq_empty_iff.mp empty)
    · cases routed
  · cases routed

theorem DelegationTable.find_some (found : table.find id = some delegation) :
    delegation ∈ table.rows ∧ delegation.id = id :=
  ⟨List.mem_of_find?_eq_some found, by simpa using List.find?_some found⟩

theorem DelegationTable.find_iff : table.find id = some delegation ↔ delegation ∈ table.rows ∧ delegation.id = id := by
  constructor
  · exact DelegationTable.find_some
  · rintro ⟨member, rfl⟩
    cases found : table.find delegation.id with
    | none =>
      have absent := List.find?_eq_none.mp found delegation member
      simp at absent
    | some other =>
      obtain ⟨member', same⟩ := DelegationTable.find_some found
      rw [List.inj_on_of_nodup_map table.primary member' member same]

section Authenticated

variable (authenticated : truthy auth.userId = some userId) (routed : routeId pathname = some id)

include authenticated routed

theorem checks_unreadable (unread : uuid id = none) : ¬ ChecksAgree uuid table auth userId pathname id := by
  obtain ⟨segment, named⟩ := routeId_some routed
  intro agree
  have middleware := agree.middleware
  simp [verifyDelegationOwnership, authenticated, segment, named, findOne, unread, ownershipStatus,
    Verdict.forbidden, Verdict.status] at middleware

theorem checks_missing {canonical : String} (read : uuid id = some canonical)
    (missing : table.find canonical = none) : ¬ ChecksAgree uuid table auth userId pathname id := by
  obtain ⟨segment, named⟩ := routeId_some routed
  intro agree
  have update := agree.update
  simp [verifyDelegationOwnership, verifyOwnership, checkDelegationOwnership, authenticated, segment, named,
    findOne, read, missing, Verdict.forbidden, Verdict.notFound, Verdict.status] at update

theorem checks_owned {canonical : String} (read : uuid id = some canonical)
    (found : table.find canonical = some delegation) (owned : delegation.userId = userId) :
    ChecksAgree uuid table auth userId pathname id := by
  obtain ⟨segment, named⟩ := routeId_some routed
  constructor
  all_goals
    simp [verifyDelegationOwnership, verifyOwnership, checkDelegationOwnership, authenticated, segment, named,
      findOne, read, found, owned, ownershipStatus, Verdict.status]

theorem checks_foreign {canonical : String} (read : uuid id = some canonical)
    (found : table.find canonical = some delegation) (foreign : delegation.userId ≠ userId) :
    ChecksAgree uuid table auth userId pathname id ↔ delegation.id = id := by
  obtain ⟨segment, named⟩ := routeId_some routed
  constructor
  · intro agree
    have update := agree.update
    by_contra other
    simp [verifyDelegationOwnership, verifyOwnership, checkDelegationOwnership, authenticated, segment, named,
      findOne, read, found, foreign, other, Verdict.forbidden, Verdict.notFound, Verdict.status] at update
  · intro same
    constructor
    all_goals
      simp [verifyDelegationOwnership, verifyOwnership, checkDelegationOwnership, authenticated, segment, named,
        findOne, read, found, foreign, same, ownershipStatus, Verdict.forbidden, Verdict.status]

end Authenticated

/-- The checks agree just where there is a delegation with the id, and it is the user's own or the id is
written as the database writes it. -/
theorem ownership_checks_agree_iff (uuid : UuidReader) (table : DelegationTable) (auth : AuthContext)
    (userId pathname id : String) (authenticated : truthy auth.userId = some userId)
    (routed : routeId pathname = some id) :
    ChecksAgree uuid table auth userId pathname id ↔
      ∃ delegation ∈ table.rows, uuid id = some delegation.id ∧
        (delegation.userId = userId ∨ delegation.id = id) := by
  cases read : uuid id with
  | none =>
    simp only [reduceCtorEq, false_and, and_false, exists_false, iff_false]
    exact checks_unreadable authenticated routed read
  | some canonical =>
    cases found : table.find canonical with
    | none =>
      apply iff_of_false (checks_missing authenticated routed read found)
      rintro ⟨delegation, member, same, _⟩
      cases found.symm.trans (DelegationTable.find_iff.mpr ⟨member, (Option.some.inj same).symm⟩)
    | some delegation =>
      obtain ⟨member, same⟩ := DelegationTable.find_some found
      have only : ∀ other ∈ table.rows, some canonical = some other.id → other = delegation := by
        intro other member' same'
        rw [DelegationTable.find_iff.mpr ⟨member', (Option.some.inj same').symm⟩] at found
        exact Option.some.inj found
      by_cases owned : delegation.userId = userId
      · apply iff_of_true (checks_owned authenticated routed read found owned)
        exact ⟨delegation, member, congrArg some same.symm, .inl owned⟩
      · rw [checks_foreign authenticated routed read found owned]
        constructor
        · intro written
          exact ⟨delegation, member, congrArg some same.symm, .inr written⟩
        · rintro ⟨other, member', same', own | written⟩
          · rw [only other member' same'] at own
            exact absurd own owned
          · rw [← only other member' same']
            exact written

section Sample

-- What the database makes of ids that are written in full.
def fullUuid : UuidReader := fun text => if text.length = 36 then some (toLowerCase text) else none

def ownedId : String := "3f2504e0-4f89-41d3-9a0c-0305e82c3301"

def missingId : String := "00000000-0000-4000-8000-000000000000"

def ownedTable : DelegationTable where
  rows := [sampleDelegation ownedId "ana"]
  primary := by
    decide

def anaAuth : AuthContext := ⟨some "ana", none⟩

theorem routeId_owned : routeId "/api/v1/delegations/3f2504e0-4f89-41d3-9a0c-0305e82c3301" = some ownedId := by
  decide +kernel

theorem routeId_missing : routeId "/api/v1/delegations/00000000-0000-4000-8000-000000000000" = some missingId := by
  decide +kernel

theorem ownership_checks_agree_iff_owned :
    ChecksAgree fullUuid ownedTable anaAuth "ana" "/api/v1/delegations/3f2504e0-4f89-41d3-9a0c-0305e82c3301"
        ownedId ↔
      ∃ delegation ∈ ownedTable.rows, fullUuid ownedId = some delegation.id ∧
        (delegation.userId = "ana" ∨ delegation.id = ownedId) :=
  ownership_checks_agree_iff fullUuid ownedTable anaAuth "ana" _ ownedId rfl routeId_owned

/-- The handlers take a delegation that is not there for another user's. -/
theorem missing_delegation_forbidden : ¬ ∀ (uuid : UuidReader) (table : DelegationTable) (auth : AuthContext)
    (userId pathname id : String), truthy auth.userId = some userId → routeId pathname = some id →
      ChecksAgree uuid table auth userId pathname id := by
  intro agree
  have read : fullUuid missingId = some missingId := by
    decide +kernel
  have missing : ownedTable.find missingId = none := by
    have absent : (ownedTable.rows.find? fun row => row.id = missingId).isNone = true := by
      decide +kernel
    exact Option.isNone_iff_eq_none.mp absent
  have authenticated : truthy anaAuth.userId = some "ana" := rfl
  exact checks_missing authenticated routeId_missing read missing
    (agree fullUuid ownedTable anaAuth "ana" _ missingId authenticated routeId_missing)

end Sample

end Agreement

end Delego.Gateway.Delegations
