import Delego.Gateway.DelegationSteps

set_option autoImplicit false

namespace Delego.Gateway.Delegations

open Shared Shared.Text

variable {services : Services} {database : Database} {id name updatedAt : String} {delegation row : Delegation}
  {auth : AuthContext} {body : Json}

def statusOf (database : Database) (id : String) : Option String :=
  (database.delegations.find id).map Delegation.status

def Awake (database : Database) (id : String) : Prop :=
  statusOf database id = some "active" ∨ statusOf database id = some "paused"

/-- A delegation that is there and is neither active nor paused. -/
def Dormant (database : Database) (id : String) : Prop :=
  ∃ status, statusOf database id = some status ∧ status ≠ "active" ∧ status ≠ "paused"

theorem Dormant.not_awake (dormant : Dormant database id) : ¬ Awake database id := by
  obtain ⟨status, held, active, paused⟩ := dormant
  rintro (awake | awake)
  · exact active (Option.some.inj (held.symm.trans awake))
  · exact paused (Option.some.inj (held.symm.trans awake))

def Reactivates (services : Services) (database : Database) (id : String) : Request → Prop
  | .update auth name (.ok body) _ none =>
    ∃ delegation, delegation.id = id ∧ Owns services database auth name delegation ∧
      validateSchema services.ajv UpdateDelegationSchema body = [] ∧
      LimitsTaken delegation (updatePayload body) ∧
      ((updatePayload body).status = some "active" ∨ (updatePayload body).status = some "paused")
  | _ => False

theorem statusOf_set_same (found : database.delegations.find row.id = some delegation) :
    statusOf { database with delegations := database.delegations.set row } row.id = some row.status := by
  rw [statusOf, DelegationTable.find_set_same found]
  rfl

theorem statusOf_set_other (other : row.id ≠ id) :
    statusOf { database with delegations := database.delegations.set row } id = statusOf database id := by
  rw [statusOf, DelegationTable.find_set_other other]
  rfl

-- A stored row wakes no dormant delegation but by its own status.
theorem Dormant.set (dormant : Dormant database id) (found : database.delegations.find row.id = some delegation)
    (quiet : row.id = id → row.status ≠ "active" ∧ row.status ≠ "paused") :
    Dormant { database with delegations := database.delegations.set row } id := by
  by_cases own : row.id = id
  · obtain ⟨active, paused⟩ := quiet own
    subst own
    exact ⟨row.status, statusOf_set_same found, active, paused⟩
  · obtain ⟨status, held, asleep⟩ := dormant
    exact ⟨status, (statusOf_set_other own).trans held, asleep⟩

theorem Updates.statusOf (updates : Updates services database auth name body updatedAt delegation row) :
    statusOf { database with delegations := database.delegations.set row } delegation.id =
      some ((truthy (updatePayload body).status).getD delegation.status) := by
  obtain ⟨same, status, _⟩ := updateRow_ok updates.updated
  have found := updates.owns.found
  rw [← same] at found ⊢
  rw [statusOf_set_same found, status]

theorem dormant_status {stated : Option String} {status : String} (quiet : status ≠ "active" ∧ status ≠ "paused")
    (silent : ¬ (stated = some "active" ∨ stated = some "paused")) :
    (truthy stated).getD status ≠ "active" ∧ (truthy stated).getD status ≠ "paused" := by
  cases stated with
  | none => exact quiet
  | some text =>
    by_cases empty : text = ""
    · subst empty
      exact quiet
    · rw [truthy_some empty]
      simpa using silent

theorem Reactivates.wakes {request : Request} (reactivates : Reactivates services database id request) :
    Awake (step services database request).2 id := by
  cases request with
  | create | list | get | revoke => cases reactivates
  | update auth name sent updatedAt failure =>
    cases sent with
    | error error => cases reactivates
    | ok data =>
      cases failure with
      | some message => cases reactivates
      | none =>
        obtain ⟨delegation, rfl, owns, valid, taken, status⟩ := reactivates
        obtain ⟨row, updated⟩ := @updateRow_taken updatedAt delegation (updatePayload data) taken
        have updates : Updates services database auth name data updatedAt delegation row :=
          ⟨owns, valid, updated⟩
        have stored : (step services database (.update auth name (.ok data) updatedAt none)).2 = _ :=
          updates.stored
        rw [stored, Awake, updates.statusOf]
        rcases status with active | paused
        · rw [active]
          exact .inl rfl
        · rw [paused]
          exact .inr rfl

/-- What one request does to a dormant delegation: only an update that reactivates it wakes it. -/
theorem step_dormant (request : Request) (dormant : Dormant database id)
    (quiet : ¬ Reactivates services database id request) :
    Dormant (step services database request).2 id := by
  have ⟨status, held, asleep⟩ := dormant
  cases request with
  | create auth body creation =>
    show Dormant (createDelegationHandler services database auth body creation).2 id
    rcases createDelegationHandler_cases services database auth body creation with
      kept | ⟨row, fresh, _, inserted⟩
    · rw [kept]
      exact dormant
    · rw [inserted]
      obtain ⟨delegation, found, rfl⟩ := Option.map_eq_some_iff.mp held
      refine ⟨delegation.status, ?_, asleep⟩
      rw [statusOf, DelegationTable.find_insert fresh found]
      rfl
  | list auth searchParams => exact dormant
  | get auth name => exact dormant
  | update auth name body updatedAt failure =>
    show Dormant (updateDelegationHandler services database auth name body updatedAt failure).2 id
    rcases updateDelegationHandler_cases services database auth name body updatedAt failure with
      ⟨data, delegation, row, rfl, rfl, updates⟩ | kept
    · obtain ⟨same, stated, taken⟩ := updateRow_ok updates.updated
      have found := updates.owns.found
      rw [updates.stored]
      rw [← same] at found
      apply dormant.set found
      intro own
      rw [same] at own
      subst own
      rw [statusOf, updates.owns.found] at held
      cases held
      rw [stated]
      apply dormant_status asleep
      intro wakes
      exact quiet ⟨delegation, rfl, updates.owns, updates.valid, taken, wakes⟩
    · rw [kept]
      exact dormant
  | revoke auth name updatedAt failure =>
    show Dormant (revokeDelegationHandler services database auth name updatedAt failure).2 id
    rcases revokeDelegationHandler_cases services database auth name updatedAt failure with
      kept | ⟨delegation, owns, revoked⟩
    · rw [kept]
      exact dormant
    · rw [revoked]
      have found := owns.found
      rw [← @revoke_id updatedAt delegation] at found
      apply dormant.set found
      intro _
      rw [revoke_status]
      decide

section Runs

variable (services : Services) (start : Database)

/-- Once a delegation has been revoked it is never active or paused again, just when no request after that
is an update of its owner that reactivates it. -/
theorem revocation_final_iff (earlier later : List Request) (id : String)
    (revoked : statusOf (final services start earlier) id = some "revoked") :
    (∀ newer, newer <:+ later → ¬ Awake (final services start (newer ++ earlier)) id) ↔
      ∀ request older, request :: older <:+ later →
        ¬ Reactivates services (final services start (older ++ earlier)) id request := by
  have begun : Dormant (final services start ([] ++ earlier)) id := ⟨"revoked", revoked, by decide, by decide⟩
  constructor
  · intro never request older within reactivates
    exact never (request :: older) within reactivates.wakes
  · intro quiet newer within
    have dormant : ∀ older, older <:+ later → Dormant (final services start (older ++ earlier)) id := by
      refine Run.along begun ?_
      intro request older within dormant
      exact step_dormant request dormant (quiet request older within)
    exact (dormant newer within).not_awake

end Runs

section Sample

def plainAjv : Ajv where
  format _ _ := true
  errors schema data := if schema.accepts (fun _ _ => true) data then [] else [⟨"", none, "type"⟩]
  correct schema data := by
    split <;> simp_all

def plainServices : Services := ⟨fullUuid, byText, plainAjv⟩

def ownedDatabase : Database := ⟨ownedTable, []⟩

def revokedRun : List Request := [.revoke anaAuth ownedId "2026-01-02T00:00:00.000Z" none]

def statusUpdate (status : String) : Request :=
  .update anaAuth ownedId (.ok (.object [("status", .string status)])) "2026-01-03T00:00:00.000Z" none

theorem revokedRun_status : statusOf (final plainServices ownedDatabase revokedRun) ownedId = some "revoked" := by
  decide +kernel

theorem revocation_final_iff_expired :
    (∀ newer, newer <:+ [statusUpdate "expired"] →
        ¬ Awake (final plainServices ownedDatabase (newer ++ revokedRun)) ownedId) ↔
      ∀ request older, request :: older <:+ [statusUpdate "expired"] →
        ¬ Reactivates plainServices (final plainServices ownedDatabase (older ++ revokedRun)) ownedId request :=
  revocation_final_iff plainServices ownedDatabase revokedRun [statusUpdate "expired"] ownedId revokedRun_status

/-- The schema takes any status, and the handler writes it over any other. -/
theorem revoked_delegation_reactivated : ¬ ∀ (services : Services) (start : Database)
    (earlier later : List Request) (id : String),
    statusOf (final services start earlier) id = some "revoked" →
      ∀ newer, newer <:+ later → ¬ Awake (final services start (newer ++ earlier)) id := by
  intro never
  apply never plainServices ownedDatabase revokedRun [statusUpdate "active"] ownedId revokedRun_status
    [statusUpdate "active"] List.suffix_rfl
  left
  decide +kernel

end Sample

end Delego.Gateway.Delegations
