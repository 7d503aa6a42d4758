import Delego.Gateway.DelegationRoutes

set_option autoImplicit false

namespace Delego.Gateway.Delegations

open Shared Shared.Text Shared.Pages

variable {services : Services} {database : Database} {table : DelegationTable} {id name updatedAt : String}
  {delegation row : Delegation} {auth : AuthContext} {body : Json} {payload : UpdateDelegationPayload}

namespace DelegationTable

theorem find_set_same (found : table.find row.id = some delegation) : (table.set row).find row.id = some row := by
  obtain ⟨member, same⟩ := find_some found
  rw [find_iff]
  refine ⟨?_, rfl⟩
  exact List.mem_map.mpr ⟨delegation, member, if_pos same⟩

theorem find_set_other (other : row.id ≠ id) : (table.set row).find id = table.find id := by
  rw [Option.ext_iff]
  intro held
  rw [find_iff, find_iff]
  constructor
  · rintro ⟨member, rfl⟩
    obtain ⟨old, member, written⟩ := List.mem_map.mp member
    split at written
    · rw [← written] at other
      exact absurd rfl other
    · rw [← written]
      exact ⟨member, rfl⟩
  · rintro ⟨member, rfl⟩
    exact ⟨List.mem_map.mpr ⟨held, member, if_neg other.symm⟩, rfl⟩

theorem find_insert (fresh : row.id ∉ table.rows.map Delegation.id) (found : table.find id = some delegation) :
    (table.insert row fresh).find id = some delegation := by
  obtain ⟨member, same⟩ := find_some found
  rw [find_iff]
  exact ⟨List.mem_append_left _ member, same⟩

end DelegationTable

def LimitsTaken (delegation : Delegation) (payload : UpdateDelegationPayload) : Prop :=
  ∀ policy ∈ payload.policy, ∃ spendLimits, updateLimits delegation.spendLimits policy = .ok spendLimits

section Saving

variable {old : Delegation}

@[simp] theorem save_id : (row.save old updatedAt).id = row.id := by
  unfold Delegation.save
  split <;> rfl

@[simp] theorem save_userId : (row.save old updatedAt).userId = row.userId := by
  unfold Delegation.save
  split <;> rfl

@[simp] theorem save_status : (row.save old updatedAt).status = row.status := by
  unfold Delegation.save
  split <;> rfl

theorem save_complete : (row.save old updatedAt).Complete ↔ row.Complete := by
  unfold Delegation.save
  split <;> rfl

theorem save_unchanged (status : row.status = old.status) (expiresAt : row.expiresAt = old.expiresAt) :
    row.save old updatedAt = row :=
  if_pos ⟨status, expiresAt⟩

@[simp] theorem revoke_id : (delegation.revoke updatedAt).id = delegation.id := save_id

@[simp] theorem revoke_userId : (delegation.revoke updatedAt).userId = delegation.userId := save_userId

@[simp] theorem revoke_status : (delegation.revoke updatedAt).status = "revoked" := save_status

end Saving

theorem updateRow_ok (updated : updateRow delegation payload updatedAt = .ok row) :
    row.id = delegation.id ∧ row.status = (truthy payload.status).getD delegation.status ∧
      LimitsTaken delegation payload := by
  unfold updateRow at updated
  cases given : payload.policy with
  | none =>
    rw [given] at updated
    cases updated
    refine ⟨save_id, save_status, ?_⟩
    intro policy held
    cases given.symm.trans held
  | some policy =>
    rw [given] at updated
    dsimp only [updatePolicy] at updated
    cases taken : updateLimits delegation.spendLimits policy with
    | error message =>
      rw [taken] at updated
      cases updated
    | ok spendLimits =>
      rw [taken] at updated
      cases updated
      refine ⟨save_id, save_status, ?_⟩
      intro other held
      cases given.symm.trans held
      exact ⟨spendLimits, taken⟩

theorem updateRow_taken (taken : LimitsTaken delegation payload) :
    ∃ row, updateRow delegation payload updatedAt = .ok row := by
  unfold updateRow
  cases given : payload.policy with
  | none => exact ⟨_, rfl⟩
  | some policy =>
    obtain ⟨spendLimits, limits⟩ := taken policy given
    dsimp only [updatePolicy]
    rw [limits]
    exact ⟨_, rfl⟩

structure Owns (services : Services) (database : Database) (auth : AuthContext) (name : String)
    (delegation : Delegation) : Prop where
  authenticated : truthy auth.userId = some delegation.userId
  named : services.uuid name = some delegation.id
  found : database.delegations.find delegation.id = some delegation

theorem Owns.unique {other : Delegation} (owns : Owns services database auth name delegation)
    (owns' : Owns services database auth name other) : other = delegation := by
  have ids := Option.some.inj (owns'.named.symm.trans owns.named)
  have found := owns'.found
  rw [ids, owns.found] at found
  exact (Option.some.inj found).symm

theorem verifyOwnership_next {failure : String → Verdict} (failing : ∀ message, failure message ≠ .next) :
    verifyOwnership services.uuid database.delegations failure auth name = .next ↔
      ∃ delegation, Owns services database auth name delegation := by
  constructor
  · intro next
    unfold verifyOwnership at next
    cases authenticated : truthy auth.userId with
    | none =>
      rw [authenticated] at next
      cases next
    | some userId =>
      simp only [authenticated, checkDelegationOwnership, findOne] at next
      cases named : services.uuid name with
      | none =>
        simp only [named] at next
        exact absurd next (failing _)
      | some id =>
        simp only [named] at next
        cases found : database.delegations.find id with
        | none => simp [found, Verdict.forbidden] at next
        | some delegation =>
          obtain ⟨_, same⟩ := DelegationTable.find_some found
          simp only [found, decide_eq_true_eq] at next
          by_cases owned : delegation.userId = userId
          · subst owned same
            exact ⟨delegation, authenticated, named, found⟩
          · simp only [owned, if_false] at next
            split at next <;> cases next
  · rintro ⟨delegation, owns⟩
    simp [verifyOwnership, owns.authenticated, checkDelegationOwnership, findOne, owns.named, owns.found]

theorem Owns.findOwn (owns : Owns services database auth name delegation) :
    findOwn services database (auth.userId.getD "") name = .ok (some delegation) := by
  have user := (Option.filter_eq_some_iff.mp owns.authenticated).1
  simp [Delegations.findOwn, user, findOne, owns.named, owns.found, Except.map, Option.filter]

structure Updates (services : Services) (database : Database) (auth : AuthContext) (name : String) (body : Json)
    (updatedAt : String) (delegation row : Delegation) : Prop where
  owns : Owns services database auth name delegation
  valid : validateSchema services.ajv UpdateDelegationSchema body = []
  updated : updateRow delegation (updatePayload body) updatedAt = .ok row

theorem updateFailure_answers (message : String) : updateFailure message ≠ .next := by
  unfold updateFailure
  split <;> simp [Verdict.notFound, Verdict.internalError]

theorem revokeFailure_answers (message : String) : revokeFailure message ≠ .next := by
  simp [revokeFailure, Verdict.internalError]

theorem Updates.stored (updates : Updates services database auth name body updatedAt delegation row) :
    (updateDelegationHandler services database auth name (.ok body) updatedAt none).2 =
      { database with delegations := database.delegations.set row } := by
  have next := (verifyOwnership_next updateFailure_answers).mpr ⟨delegation, updates.owns⟩
  simp only [updateDelegationHandler, next, updates.valid, updateTransaction, updates.owns.findOwn, updates.updated]

theorem updateDelegationHandler_cases (services : Services) (database : Database) (auth : AuthContext)
    (name : String) (body : Except BodyError Json) (updatedAt : String) (failure : Option String) :
    (∃ data delegation row, body = .ok data ∧ failure = none ∧
      Updates services database auth name data updatedAt delegation row) ∨
    (updateDelegationHandler services database auth name body updatedAt failure).2 = database := by
  cases verdict : verifyOwnership services.uuid database.delegations updateFailure auth name with
  | reply status code message =>
    right
    simp only [updateDelegationHandler, verdict]
  | next =>
    obtain ⟨delegation, owns⟩ := (verifyOwnership_next updateFailure_answers).mp verdict
    cases body with
    | error error =>
      right
      simp only [updateDelegationHandler, verdict]
    | ok data =>
      cases details : validateSchema services.ajv UpdateDelegationSchema data with
      | cons detail details =>
        right
        simp only [updateDelegationHandler, verdict, details]
      | nil =>
        cases failure with
        | some message =>
          right
          simp only [updateDelegationHandler, verdict, details, updateTransaction]
        | none =>
          cases updated : updateRow delegation (updatePayload data) updatedAt with
          | error message =>
            right
            simp only [updateDelegationHandler, verdict, details, updateTransaction, owns.findOwn, updated]
          | ok row => exact .inl ⟨data, delegation, row, rfl, rfl, owns, details, updated⟩

theorem revokeDelegationHandler_cases (services : Services) (database : Database) (auth : AuthContext)
    (name updatedAt : String) (failure : Option String) :
    (revokeDelegationHandler services database auth name updatedAt failure).2 = database ∨
      ∃ delegation, Owns services database auth name delegation ∧
        (revokeDelegationHandler services database auth name updatedAt failure).2 =
          { database with delegations := database.delegations.set (delegation.revoke updatedAt) } := by
  cases verdict : verifyOwnership services.uuid database.delegations revokeFailure auth name with
  | reply status code message =>
    left
    simp only [revokeDelegationHandler, verdict]
  | next =>
    obtain ⟨delegation, owns⟩ := (verifyOwnership_next revokeFailure_answers).mp verdict
    cases failure with
    | some message =>
      left
      simp only [revokeDelegationHandler, verdict, owns.findOwn]
    | none =>
      right
      refine ⟨delegation, owns, ?_⟩
      simp only [revokeDelegationHandler, verdict, owns.findOwn]

theorem newDelegation_complete {userId walletId : String} {creation : Creation}
    (created : newDelegation userId walletId body creation = .ok row) : row.Complete := by
  simp only [newDelegation, bind, Except.bind] at created
  split at created
  · cases created
  · split at created
    · cases created
    · cases created
      simp [Delegation.Complete]

theorem createDelegationHandler_cases (services : Services) (database : Database) (auth : AuthContext)
    (body : Except BodyError Json) (creation : Creation) :
    (createDelegationHandler services database auth body creation).2 = database ∨
      ∃ delegation fresh, delegation.Complete ∧ (createDelegationHandler services database auth body creation).2 =
        { database with delegations := database.delegations.insert delegation fresh } := by
  unfold createDelegationHandler
  dsimp only
  repeat' split
  all_goals first | exact .inl rfl | exact .inr ⟨_, ‹_›, newDelegation_complete ‹_›, rfl⟩

section Complete

theorem updateLimits_nonempty {spendLimits after : List SpendLimit} {policy : PolicyPayload}
    (taken : updateLimits spendLimits policy = .ok after) (nonempty : spendLimits ≠ []) : after ≠ [] := by
  cases spendLimits with
  | nil => exact absurd rfl nonempty
  | cons spendLimit others =>
    dsimp only [updateLimits] at taken
    cases updated : spendLimit.update policy with
    | error message =>
      rw [updated] at taken
      cases taken
    | ok spendLimit =>
      rw [updated] at taken
      cases taken
      exact List.cons_ne_nil _ _

theorem updateRow_complete (updated : updateRow delegation payload updatedAt = .ok row)
    (complete : delegation.Complete) : row.Complete := by
  obtain ⟨hasPolicy, hasLimit, hasLevel⟩ := complete
  unfold updateRow at updated
  cases given : payload.policy with
  | none =>
    rw [given] at updated
    cases updated
    exact save_complete.mpr ⟨hasPolicy, hasLimit, hasLevel⟩
  | some policy =>
    rw [given] at updated
    dsimp only [updatePolicy] at updated
    cases taken : updateLimits delegation.spendLimits policy with
    | error message =>
      rw [taken] at updated
      cases updated
    | ok spendLimits =>
      rw [taken] at updated
      cases updated
      refine save_complete.mpr ⟨?_, updateLimits_nonempty taken hasLimit, hasLevel⟩
      simpa using hasPolicy

def Database.Complete (database : Database) : Prop := ∀ row ∈ database.delegations.rows, row.Complete

theorem Database.Complete.set (complete : database.Complete) (whole : row.Complete) :
    Database.Complete { database with delegations := database.delegations.set row } := by
  intro held member
  obtain ⟨old, member, written⟩ := List.mem_map.mp member
  split at written
  · rw [← written]
    exact whole
  · rw [← written]
    exact complete old member

theorem Database.Complete.insert (complete : database.Complete) (whole : row.Complete)
    (fresh : row.id ∉ database.delegations.rows.map Delegation.id) :
    Database.Complete { database with delegations := database.delegations.insert row fresh } := by
  intro held member
  rcases List.mem_append.mp member with old | new
  · exact complete held old
  · rw [List.mem_singleton.mp new]
    exact whole

theorem Owns.complete (owns : Owns services database auth name delegation) (complete : database.Complete) :
    delegation.Complete :=
  complete delegation (DelegationTable.find_some owns.found).1

theorem step_complete (request : Request) (complete : database.Complete) :
    (step services database request).2.Complete := by
  cases request with
  | create auth body creation =>
    show (createDelegationHandler services database auth body creation).2.Complete
    rcases createDelegationHandler_cases services database auth body creation with
      kept | ⟨row, fresh, whole, inserted⟩
    · rw [kept]
      exact complete
    · rw [inserted]
      exact complete.insert whole fresh
  | list auth searchParams => exact complete
  | get auth name => exact complete
  | update auth name body updatedAt failure =>
    show (updateDelegationHandler services database auth name body updatedAt failure).2.Complete
    rcases updateDelegationHandler_cases services database auth name body updatedAt failure with
      ⟨data, delegation, row, rfl, rfl, updates⟩ | kept
    · rw [updates.stored]
      exact complete.set (updateRow_complete updates.updated (updates.owns.complete complete))
    · rw [kept]
      exact complete
  | revoke auth name updatedAt failure =>
    show (revokeDelegationHandler services database auth name updatedAt failure).2.Complete
    rcases revokeDelegationHandler_cases services database auth name updatedAt failure with
      kept | ⟨delegation, owns, revoked⟩
    · rw [kept]
      exact complete
    · rw [revoked]
      exact complete.set (save_complete.mpr (owns.complete complete))

def final (services : Services) (start : Database) (requests : List Request) : Database :=
  Run.final (step services) start requests

theorem final_complete (complete : database.Complete) (requests : List Request) :
    (final services database requests).Complete := by
  induction requests with
  | nil => exact complete
  | cons request earlier ih => exact step_complete request ih

theorem rowsWhere_mem {order : KeyOrder String} {userId : String} {query : PaginationQuery}
    {test : String → Bool} (member : row ∈ rowsWhere order table userId query test) : row ∈ table.rows := by
  have sorted := (KeyOrder.sort_perm _ _).mem_iff.mp (List.mem_of_mem_take member)
  exact List.mem_of_mem_filter sorted

theorem findAll_mem {uuid : UuidReader} {order : KeyOrder String} {userId : String} {query : PaginationQuery}
    {rows : List Delegation} (found : findAll uuid order table userId query = .ok rows) :
    ∀ row ∈ rows, row ∈ table.rows := by
  unfold findAll at found
  split at found
  · cases found
    exact fun row => rowsWhere_mem
  · split at found
    · cases found
    · cases found
      exact fun row => rowsWhere_mem

theorem parseCursor_given {given cursor : Option String} (read : parseCursor given = .ok cursor) :
    cursor = given := by
  unfold parseCursor at read
  split at read
  · split at read <;> cases read
    rfl
  · cases read
    rfl

theorem parsePaginationQuery_cursor {searchParams : List (String × String)} {query : PaginationQuery}
    (read : parsePaginationQuery searchParams = .ok query) : query.cursor = searchParams.lookup "cursor" := by
  unfold parsePaginationQuery at read
  cases limit : parseLimit (searchParams.lookup "limit") with
  | error error => simp [limit, bind, Except.bind] at read
  | ok limit =>
    cases sort : parseSort (searchParams.lookup "sort") with
    | error error => simp [*, bind, Except.bind] at read
    | ok sort =>
      cases cursor : parseCursor (searchParams.lookup "cursor") with
      | error error => simp [*, bind, Except.bind] at read
      | ok cursor =>
        simp only [*, bind, Except.bind, Except.ok.injEq] at read
        rw [← read]
        exact parseCursor_given ‹_›

theorem findAll_error {searchParams : List (String × String)} {query : PaginationQuery} {uuid : UuidReader}
    {order : KeyOrder String} {userId message : String} (read : parsePaginationQuery searchParams = .ok query)
    (failed : findAll uuid order table userId query = .error message) :
    ∃ cursor, searchParams.lookup "cursor" = some cursor ∧ uuid cursor = none := by
  unfold findAll at failed
  split at failed
  · cases failed
  · next cursor given =>
    split at failed
    · refine ⟨cursor, ?_, ‹_›⟩
      rw [← parsePaginationQuery_cursor read]
      exact (Option.filter_eq_some_iff.mp given).1
    · cases failed

theorem listing_answers (complete : database.Complete) (requests : List Request)
    (searchParams : List (String × String))
    (failed : (listDelegationsHandler services.uuid services.order (final services database requests).delegations
      auth searchParams).status = 500) :
    ∃ cursor, searchParams.lookup "cursor" = some cursor ∧ services.uuid cursor = none := by
  have whole := @final_complete services database complete requests
  unfold listDelegationsHandler at failed
  cases user : truthy auth.userId with
  | none => simp [user] at failed
  | some userId =>
    cases read : parsePaginationQuery searchParams with
    | error error => simp [user, read] at failed
    | ok query =>
      simp only [user, read] at failed
      cases found : findAll services.uuid services.order (final services database requests).delegations userId
          query with
      | error message => exact findAll_error read found
      | ok rows =>
        obtain ⟨responses, answers, _⟩ := respond_all fun row member => whole row (findAll_mem found row member)
        simp [found, Except.bind, respond_mapM answers] at failed

end Complete

end Delego.Gateway.Delegations
