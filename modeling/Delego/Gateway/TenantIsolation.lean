import Delego.Gateway.RevokedDelegations
import Delego.Shared.Unwinding

set_option autoImplicit false

namespace Delego.Gateway.Delegations

open Shared Shared.Text Shared.Pages Shared.Run

def Request.auth : Request → AuthContext
  | .create auth .. | .list auth _ | .get auth _ | .update auth .. | .revoke auth .. => auth

def Request.userId (request : Request) : Option String := truthy request.auth.userId

/-- A request that has reached its handler, where the ids that are reserved for the rows of one user are drawn
for no other row; `unread` is the message of the database when the first read of the request fails. A second
read that fails is answered as a failing write is, which the request itself has. -/
structure Tenanted (userId : String) (reserved : String → Prop) where
  request : Request
  unread : Option String
  apart : ∀ auth body creation, request = .create auth body creation →
    (reserved creation.newId ↔ request.userId = some userId)

-- A request that changes a delegation and spells its id in another way than the database does.
def Request.misspelled (uuid : UuidReader) : Request → Bool
  | .update _ id .. | .revoke _ id .. => (uuid id).any fun canonical => canonical ≠ id
  | _ => false

-- A refusal that does not tell whether the delegation is missing or another's.
def Answer.blurred : Answer → Answer
  | .sent reply =>
    if reply.status = 403 ∨ reply.status = 404 then .sent (.failed 404 "NOT_FOUND" "Delegation not found" [])
    else .sent reply
  | .listed reply => .listed reply

/-- What the handlers answer when their first read fails; nothing where they answer without it. -/
def failedRead (services : Services) (message : String) : Request → Option Answer
  | .create auth body _ =>
    match truthy auth.userId, body with
    | some _, .ok body =>
      match validateSchema services.ajv CreateDelegationSchema body with
      | [] => some (.sent (.failed 500 "INTERNAL_ERROR" message []))
      | _ => none
    | _, _ => none
  | .list auth searchParams =>
    match truthy auth.userId, parsePaginationQuery searchParams with
    | some _, .ok _ => some (.listed ⟨500, none, some ⟨"INTERNAL_ERROR", message, []⟩⟩)
    | _, _ => none
  | .get auth _ => (truthy auth.userId).map fun _ => .sent (.failed 500 "INTERNAL_ERROR" message [])
  | .update auth .. => (truthy auth.userId).map fun _ => .sent (updateFailure message).sent
  | .revoke auth .. => (truthy auth.userId).map fun _ => .sent (revokeFailure message).sent

def Tenanted.failed {userId : String} {reserved : String → Prop} (services : Services)
    (input : Tenanted userId reserved) : Option Answer :=
  input.unread.bind fun message => failedRead services message input.request

def serve (services : Services) {userId : String} {reserved : String → Prop} (database : Database)
    (input : Tenanted userId reserved) : (Request × Answer) × Database :=
  match input.failed services with
  | some answer => ((input.request, answer), database)
  | none => ((input.request, (step services database input.request).1), (step services database input.request).2)

/-- Requests whose failing read is not told are those that read nothing: the database has no part in what they
are answered. -/
theorem failedRead_none {services : Services} {message : String} {request : Request}
    (told : failedRead services message request = none) (database database' : Database) :
    (step services database request).1 = (step services database' request).1 ∧
      (step services database request).2 = database := by
  cases request with
  | create auth body creation =>
    cases user : truthy auth.userId with
    | none => simp [step, createDelegationHandler, user]
    | some userId =>
      cases body with
      | error error => simp [step, createDelegationHandler, user]
      | ok body =>
        cases details : validateSchema services.ajv CreateDelegationSchema body with
        | nil => simp [failedRead, user, details] at told
        | cons detail details' => simp [step, createDelegationHandler, user, details]
  | list auth searchParams =>
    cases user : truthy auth.userId with
    | none => simp [step, listDelegationsHandler, user]
    | some userId =>
      cases read : parsePaginationQuery searchParams with
      | error error => simp [step, listDelegationsHandler, user, read]
      | ok query => simp [failedRead, user, read] at told
  | get auth id =>
    have user : truthy auth.userId = none := by simpa [failedRead] using told
    simp [step, getDelegationHandler, user]
  | update auth id body updatedAt failure =>
    have user : truthy auth.userId = none := by simpa [failedRead] using told
    simp [step, updateDelegationHandler, verifyOwnership, user, Verdict.unauthorized]
  | revoke auth id updatedAt failure =>
    have user : truthy auth.userId = none := by simpa [failedRead] using told
    simp [step, revokeDelegationHandler, verifyOwnership, user, Verdict.unauthorized]

def shownTo (uuid : UuidReader) (userId : String) (output : Request × Answer) : Option Answer :=
  if output.1.userId = some userId then
    some (if output.1.misspelled uuid then output.2.blurred else output.2)
  else none

section Rows

variable {userId id : String} {table table' : DelegationTable} {row delegation : Delegation}

theorem mem_ownedBy :
    delegation ∈ table.ownedBy userId ↔ delegation ∈ table.rows ∧ delegation.userId = userId := by
  simp [DelegationTable.ownedBy]

theorem find_owned : (table.find id).filter (fun row => row.userId = userId) = some delegation ↔
    delegation ∈ table.ownedBy userId ∧ delegation.id = id := by
  rw [Option.filter_eq_some_iff, DelegationTable.find_iff, mem_ownedBy, decide_eq_true_eq, and_right_comm]

theorem find_alike (alike : table.ownedBy userId = table'.ownedBy userId) :
    (table.find id).filter (fun row => row.userId = userId) =
      (table'.find id).filter fun row => row.userId = userId := by
  apply Option.ext
  intro delegation
  rw [find_owned, find_owned, alike]

theorem ownedBy_set_own (own : row.userId = userId)
    (kept : ∀ old ∈ table.rows, old.id = row.id → old.userId = userId) :
    (table.set row).ownedBy userId =
      (table.ownedBy userId).map fun old => if old.id = row.id then row else old := by
  unfold DelegationTable.ownedBy DelegationTable.set
  rw [List.filter_map]
  congr 1
  apply List.filter_congr
  intro old member
  by_cases same : old.id = row.id
  · simp [same, own, kept old member same]
  · simp [same]

theorem ownedBy_set_other (other : row.userId ≠ userId)
    (kept : ∀ old ∈ table.rows, old.id = row.id → old.userId ≠ userId) :
    (table.set row).ownedBy userId = table.ownedBy userId := by
  unfold DelegationTable.ownedBy DelegationTable.set
  rw [List.filter_map]
  have same : (table.rows.filter ((fun row => decide (row.userId = userId)) ∘
      fun old => if old.id = row.id then row else old)) =
        table.rows.filter fun row => row.userId = userId := by
    apply List.filter_congr
    intro old member
    by_cases same : old.id = row.id
    · simp [same, other, kept old member same]
    · simp [same]
  rw [same]
  conv_rhs => rw [← List.map_id (List.filter _ _)]
  apply List.map_congr_left
  intro old member
  have own : old.userId = userId := by simpa using List.of_mem_filter member
  have apart : old.id ≠ row.id := fun same => kept old (List.mem_of_mem_filter member) same own
  simp [apart]

theorem ownedBy_insert (fresh : row.id ∉ table.rows.map Delegation.id) :
    (table.insert row fresh).ownedBy userId =
      table.ownedBy userId ++ if row.userId = userId then [row] else [] := by
  unfold DelegationTable.ownedBy DelegationTable.insert
  rw [List.filter_append, List.filter_singleton]
  simp

end Rows

section Changes

variable {services : Services} {database : Database} {table : DelegationTable} {auth : AuthContext}
  {delegation row : Delegation} {updatedAt userId name : String} {reserved : String → Prop}

theorem updateRow_owner {payload : UpdateDelegationPayload}
    (updated : updateRow delegation payload updatedAt = .ok row) : row.userId = delegation.userId := by
  unfold updateRow at updated
  cases given : payload.policy with
  | none =>
    rw [given] at updated
    cases updated
    exact save_userId
  | some policy =>
    rw [given] at updated
    dsimp only [updatePolicy] at updated
    cases taken : updateLimits delegation.spendLimits policy with
    | error message =>
      rw [taken] at updated
      cases updated
    | ok spendLimits =>
      rw [taken] at updated
      cases updated
      exact save_userId

theorem newDelegation_owner {walletId : String} {body : Json} {creation : Creation}
    (created : newDelegation userId walletId body creation = .ok row) :
    row.userId = userId ∧ row.id = creation.newId := by
  simp only [newDelegation, bind, Except.bind] at created
  split at created
  · cases created
  · split at created
    · cases created
    · cases created
      exact ⟨rfl, rfl⟩

theorem createDelegationHandler_owner (services : Services) (database : Database) (auth : AuthContext)
    (body : Except BodyError Json) (creation : Creation) :
    (createDelegationHandler services database auth body creation).2 = database ∨
      ∃ row fresh, truthy auth.userId = some row.userId ∧ row.id = creation.newId ∧
        (createDelegationHandler services database auth body creation).2 =
          { database with delegations := database.delegations.insert row fresh } := by
  unfold createDelegationHandler
  cases named : truthy auth.userId with
  | none => exact .inl rfl
  | some userId =>
    cases body with
    | error error => exact .inl rfl
    | ok body =>
      dsimp only
      split
      · exact .inl rfl
      · split
        · exact .inl rfl
        · split
          · exact .inl rfl
          · split
            · exact .inl rfl
            · exact .inl rfl
            · next delegation _ created =>
              obtain ⟨owner, id⟩ := newDelegation_owner created
              split
              · next fresh => exact .inr ⟨delegation, fresh, by rw [owner], id, rfl⟩
              · exact .inl rfl

inductive Change (request : Request) (database : Database) : Database → Prop
  | none : Change request database database
  | wrote (delegation row : Delegation) (member : delegation ∈ database.delegations.rows)
      (id : row.id = delegation.id) (owner : row.userId = delegation.userId)
      (by_user : request.userId = some row.userId) :
      Change request database { database with delegations := database.delegations.set row }
  | added (auth : AuthContext) (body : Except BodyError Json) (creation : Creation) (row : Delegation)
      (fresh : row.id ∉ database.delegations.rows.map Delegation.id)
      (made : request = .create auth body creation) (id : row.id = creation.newId)
      (by_user : request.userId = some row.userId) :
      Change request database { database with delegations := database.delegations.insert row fresh }

theorem Owns.wrote {request : Request} (owns : Owns services database auth name delegation)
    (id : row.id = delegation.id) (owner : row.userId = delegation.userId) (by_auth : request.auth = auth) :
    Change request database { database with delegations := database.delegations.set row } := by
  obtain ⟨member, _⟩ := DelegationTable.find_some owns.found
  refine .wrote delegation row member id owner ?_
  rw [Request.userId, by_auth, owns.authenticated, owner]

theorem step_change (services : Services) (database : Database) (request : Request) :
    Change request database (step services database request).2 := by
  cases request with
  | list | get => exact .none
  | create auth body creation =>
    simp only [step]
    rcases createDelegationHandler_owner services database auth body creation with
      same | ⟨row, fresh, owner, id, stored⟩
    · rw [same]
      exact .none
    · rw [stored]
      exact .added auth body creation row fresh rfl id owner
  | update auth id body updatedAt failure =>
    simp only [step]
    rcases updateDelegationHandler_cases services database auth id body updatedAt failure with
      ⟨data, delegation, row, read, fine, updates⟩ | same
    · subst read fine
      rw [updates.stored]
      exact updates.owns.wrote (updateRow_ok updates.updated).1 (updateRow_owner updates.updated) rfl
    · rw [same]
      exact .none
  | revoke auth id updatedAt failure =>
    simp only [step]
    rcases revokeDelegationHandler_cases services database auth id updatedAt failure with
      same | ⟨delegation, owns, stored⟩
    · rw [same]
      exact .none
    · rw [stored]
      exact owns.wrote revoke_id revoke_userId rfl

def Reserves (userId : String) (reserved : String → Prop) (database : Database) : Prop :=
  ∀ row ∈ database.delegations.rows, reserved row.id → row.userId = userId

theorem Change.reserves {after : Database} {input : Tenanted userId reserved}
    (change : Change input.request database after) (reserves : Reserves userId reserved database) :
    Reserves userId reserved after := by
  cases change with
  | none => exact reserves
  | wrote delegation row member id owner =>
    intro held among taken
    obtain ⟨old, member', written⟩ := List.mem_map.mp among
    split at written
    · subst written
      rw [owner]
      rw [id] at taken
      exact reserves delegation member taken
    · subst written
      exact reserves old member' taken
  | added auth body creation row fresh made id by_user =>
    intro held among taken
    rcases List.mem_append.mp among with old | new
    · exact reserves held old taken
    · obtain rfl := List.mem_singleton.mp new
      rw [id] at taken
      have own := (input.apart auth body creation made).mp taken
      exact Option.some.inj (by_user.symm.trans own)

theorem same_row {old : Delegation} (member : old ∈ table.rows) (member' : delegation ∈ table.rows)
    (same : old.id = delegation.id) : old = delegation :=
  List.inj_on_of_nodup_map table.primary member member' same

theorem Change.others {request : Request} {after : Database} (change : Change request database after)
    (other : request.userId ≠ some userId) :
    after.delegations.ownedBy userId = database.delegations.ownedBy userId := by
  cases change with
  | none => rfl
  | wrote delegation row member id owner by_user =>
    have apart : row.userId ≠ userId := fun same => other (by rw [by_user, same])
    refine ownedBy_set_other apart ?_
    intro old member' same
    rw [same_row member' member (same.trans id), ← owner]
    exact apart
  | added auth body creation row fresh made id by_user =>
    have apart : row.userId ≠ userId := fun same => other (by rw [by_user, same])
    dsimp only
    rw [ownedBy_insert, if_neg apart, List.append_nil]

theorem Change.wallets {request : Request} {after : Database} (change : Change request database after) :
    after.wallets = database.wallets := by
  cases change <;> rfl

end Changes

section Alike

variable {services : Services} {database database' : Database} {auth : AuthContext} {delegation row : Delegation}
  {id userId updatedAt : String} {reserved : String → Prop}

/-- Databases that a user cannot tell apart: the user's rows and the wallets are the same, and whatever else
there is has no reserved id. -/
structure Alike (userId : String) (reserved : String → Prop) (database database' : Database) : Prop where
  owned : database.delegations.ownedBy userId = database'.delegations.ownedBy userId
  wallets : database.wallets = database'.wallets
  reserves : Reserves userId reserved database
  reserves' : Reserves userId reserved database'

theorem findOwn_alike (services : Services) (alike : Alike userId reserved database database') (id : String) :
    findOwn services database userId id = findOwn services database' userId id := by
  unfold findOwn findOne
  cases services.uuid id with
  | none => rfl
  | some canonical =>
    simp only [Except.map]
    rw [find_alike alike.owned]

theorem findOwn_owned (found : findOwn services database userId id = .ok (some delegation)) :
    delegation ∈ database.delegations.ownedBy userId := by
  unfold findOwn findOne at found
  cases named : services.uuid id with
  | none =>
    rw [named] at found
    cases found
  | some canonical =>
    rw [named] at found
    simp only [Except.map, Except.ok.injEq] at found
    exact (find_owned.mp found).1

theorem rowsWhere_alike (alike : Alike userId reserved database database') (order : KeyOrder String)
    (query : PaginationQuery) (test : String → Bool) :
    rowsWhere order database.delegations userId query test =
      rowsWhere order database'.delegations userId query test := by
  have rows (table : DelegationTable) : (table.rows.filter fun row => row.userId = userId && test row.id) =
      (table.ownedBy userId).filter fun row => test row.id := by
    rw [DelegationTable.ownedBy, List.filter_filter]
    simp only [Bool.and_comm]
  simp only [rowsWhere, rows, alike.owned]

theorem findAll_alike (alike : Alike userId reserved database database') (uuid : UuidReader)
    (order : KeyOrder String) (query : PaginationQuery) :
    findAll uuid order database.delegations userId query =
      findAll uuid order database'.delegations userId query := by
  simp only [findAll, rowsWhere_alike alike]

def notYours : Verdict := .forbidden "You do not have permission to modify this delegation"

def missing : Verdict := .notFound "Delegation not found"

theorem verifyOwnership_cases (database : Database) (failure : String → Verdict)
    (authenticated : truthy auth.userId = some userId) {canonical : String}
    (named : services.uuid id = some canonical) :
    let verdict := verifyOwnership services.uuid database.delegations failure auth id
    ((∃ delegation, (database.delegations.find canonical).filter (fun row => row.userId = userId) =
        some delegation) ∧ verdict = .next) ∨
      ((database.delegations.find canonical).filter (fun row => row.userId = userId) = none ∧
        (verdict = notYours ∨ verdict = missing ∧ canonical ≠ id)) := by
  simp only [verifyOwnership, authenticated, checkDelegationOwnership, findOne, named]
  cases found : database.delegations.find canonical with
  | none => simp [notYours]
  | some delegation =>
    obtain ⟨_, same⟩ := DelegationTable.find_some found
    by_cases owned : delegation.userId = userId
    · simp [owned, Option.filter]
    · by_cases spelled : canonical = id
      · simp [owned, Option.filter, same, spelled, notYours]
      · simp [owned, Option.filter, same, spelled, missing]

/-- The checks on two databases that are alike come to the same, unless the id is misspelled: then both may
refuse, each in its own way. -/
theorem verifyOwnership_alike (services : Services) (id : String)
    (alike : Alike userId reserved database database') (failure : String → Verdict)
    (authenticated : truthy auth.userId = some userId) :
    verifyOwnership services.uuid database.delegations failure auth id =
        verifyOwnership services.uuid database'.delegations failure auth id ∨
      ((services.uuid id).any fun canonical => canonical ≠ id) = true ∧
        ∀ either ∈ [database, database'],
          verifyOwnership services.uuid either.delegations failure auth id = notYours ∨
            verifyOwnership services.uuid either.delegations failure auth id = missing := by
  cases named : services.uuid id with
  | none =>
    left
    simp [verifyOwnership, authenticated, checkDelegationOwnership, findOne, named]
  | some canonical =>
    have first := verifyOwnership_cases database failure authenticated named
    have second := verifyOwnership_cases database' failure authenticated named
    rw [← find_alike alike.owned] at second
    obtain ⟨⟨delegation, own⟩, next⟩ | ⟨none, refused⟩ := first
    · obtain ⟨_, next'⟩ | ⟨none', _⟩ := second
      · exact .inl (next.trans next'.symm)
      · cases own.symm.trans none'
    · obtain ⟨⟨delegation, own⟩, _⟩ | ⟨_, refused'⟩ := second
      · cases own.symm.trans none
      · by_cases spelled : canonical = id
        · have first := refused.resolve_right fun other => other.2 spelled
          have second := refused'.resolve_right fun other => other.2 spelled
          exact .inl (first.trans second.symm)
        · right
          simp only [Option.any_some, decide_eq_true_eq, List.forall_mem_cons, List.not_mem_nil,
            false_implies, implies_true, and_true]
          exact ⟨by simpa using spelled, refused.imp_right And.left, refused'.imp_right And.left⟩

theorem Alike.set (alike : Alike userId reserved database database')
    (own : delegation ∈ database.delegations.ownedBy userId) (same : row.id = delegation.id)
    (owner : row.userId = delegation.userId) :
    (database.delegations.set row).ownedBy userId = (database'.delegations.set row).ownedBy userId := by
  have own' := own
  rw [alike.owned] at own'
  obtain ⟨member, user⟩ := mem_ownedBy.mp own
  obtain ⟨member', _⟩ := mem_ownedBy.mp own'
  have kept {table : DelegationTable} (held : delegation ∈ table.rows) :
      ∀ old ∈ table.rows, old.id = row.id → old.userId = userId := by
    intro old among written
    rw [same_row among held (written.trans same), user]
  rw [ownedBy_set_own (owner.trans user) (kept member), ownedBy_set_own (owner.trans user) (kept member'),
    alike.owned]

theorem Alike.fresh (alike : Alike userId reserved database database') (taken : reserved id) :
    id ∉ database.delegations.rows.map Delegation.id ↔ id ∉ database'.delegations.rows.map Delegation.id := by
  have among {table : DelegationTable} (reserves : ∀ row ∈ table.rows, reserved row.id → row.userId = userId) :
      id ∈ table.rows.map Delegation.id ↔ id ∈ (table.ownedBy userId).map Delegation.id := by
    simp only [List.mem_map, mem_ownedBy]
    constructor
    · intro ⟨row, member, same⟩
      exact ⟨row, ⟨member, reserves row member (same ▸ taken)⟩, same⟩
    · intro ⟨row, member, same⟩
      exact ⟨row, member.1, same⟩
  rw [among alike.reserves, among alike.reserves', alike.owned]

/-- Answers to one request that its user cannot tell apart, and rows of the user that are the same. -/
structure Indistinct (uuid : UuidReader) (userId : String) (request : Request)
    (result result' : Answer × Database) : Prop where
  answers : shownTo uuid userId (request, result.1) = shownTo uuid userId (request, result'.1)
  owned : result.2.delegations.ownedBy userId = result'.2.delegations.ownedBy userId

theorem indistinct_same {request : Request} {answer : Answer} {after after' : Database}
    (owned : after.delegations.ownedBy userId = after'.delegations.ownedBy userId) :
    Indistinct services.uuid userId request (answer, after) (answer, after') :=
  ⟨rfl, owned⟩

theorem blurred_refusal {verdict : Verdict} {status : Nat} {code message : String}
    (refused : verdict = notYours ∨ verdict = missing) (told : verdict = .reply status code message) :
    (Answer.sent (.failed status code message [])).blurred =
      .sent (.failed 404 "NOT_FOUND" "Delegation not found" []) := by
  rcases refused with same | same
  · cases same.symm.trans told
    simp [Answer.blurred, RouteReply.failed]
  · cases same.symm.trans told
    simp [Answer.blurred, RouteReply.failed]

theorem indistinct_refused {request : Request} {status status' : Nat} {code code' message message' : String}
    {verdict verdict' : Verdict} (alike : Alike userId reserved database database')
    (wrong : request.misspelled services.uuid = true)
    (refused : verdict = notYours ∨ verdict = missing) (refused' : verdict' = notYours ∨ verdict' = missing)
    (told : verdict = .reply status code message) (told' : verdict' = .reply status' code' message') :
    Indistinct services.uuid userId request (.sent (.failed status code message []), database)
      (.sent (.failed status' code' message' []), database') := by
  refine ⟨?_, alike.owned⟩
  simp only [shownTo, wrong, if_true, blurred_refusal refused told, blurred_refusal refused' told']

theorem refusal_told {verdict : Verdict} (refused : verdict = notYours ∨ verdict = missing) :
    ∃ status code message, verdict = .reply status code message := by
  rcases refused with same | same
  · exact ⟨_, _, _, same⟩
  · exact ⟨_, _, _, same⟩

theorem user_given (authenticated : truthy auth.userId = some userId) : auth.userId.getD "" = userId := by
  rw [(Option.filter_eq_some_iff.mp authenticated).1]
  rfl

theorem update_indistinct (alike : Alike userId reserved database database')
    (authenticated : truthy auth.userId = some userId) (body : Except BodyError Json) (failure : Option String) :
    Indistinct services.uuid userId (.update auth id body updatedAt failure)
      (step services database (.update auth id body updatedAt failure))
      (step services database' (.update auth id body updatedAt failure)) := by
  have user := user_given authenticated
  simp only [step]
  rcases verifyOwnership_alike services id alike updateFailure authenticated with same | ⟨wrong, refusals⟩
  · cases verdict : verifyOwnership services.uuid database.delegations updateFailure auth id with
    | reply status code message =>
      simp only [updateDelegationHandler, verdict, same.symm.trans verdict]
      exact indistinct_same alike.owned
    | next =>
      cases body with
      | error error =>
        simp only [updateDelegationHandler, verdict, same.symm.trans verdict]
        exact indistinct_same alike.owned
      | ok body =>
        cases details : validateSchema services.ajv UpdateDelegationSchema body with
        | cons detail details =>
          simp only [updateDelegationHandler, verdict, same.symm.trans verdict, details]
          exact indistinct_same alike.owned
        | nil =>
          have rows := findOwn_alike services alike id
          cases found : findOwn services database userId id with
          | error message =>
            have found' := rows.symm.trans found
            cases failure <;>
            · simp only [updateDelegationHandler, verdict, same.symm.trans verdict, details, updateTransaction,
                user, found, found']
              exact indistinct_same alike.owned
          | ok held =>
            have found' := rows.symm.trans found
            cases failure with
            | some message =>
              simp only [updateDelegationHandler, verdict, same.symm.trans verdict, details, updateTransaction]
              exact indistinct_same alike.owned
            | none =>
              cases held with
              | none =>
                simp only [updateDelegationHandler, verdict, same.symm.trans verdict, details, updateTransaction,
                  user, found, found']
                exact indistinct_same alike.owned
              | some delegation =>
                cases updated : updateRow delegation (updatePayload body) updatedAt with
                | error message =>
                  simp only [updateDelegationHandler, verdict, same.symm.trans verdict, details,
                    updateTransaction, user, found, found', updated]
                  exact indistinct_same alike.owned
                | ok row =>
                  simp only [updateDelegationHandler, verdict, same.symm.trans verdict, details,
                    updateTransaction, user, found, found', updated]
                  exact indistinct_same (alike.set (findOwn_owned found) (updateRow_ok updated).1
                    (updateRow_owner updated))
  · have refused := refusals database (by simp)
    have refused' := refusals database' (by simp)
    obtain ⟨status, code, message, told⟩ := refusal_told refused
    obtain ⟨status', code', message', told'⟩ := refusal_told refused'
    simp only [updateDelegationHandler, told, told']
    exact indistinct_refused alike wrong refused refused' told told'

theorem revoke_indistinct (alike : Alike userId reserved database database')
    (authenticated : truthy auth.userId = some userId) (failure : Option String) :
    Indistinct services.uuid userId (.revoke auth id updatedAt failure)
      (step services database (.revoke auth id updatedAt failure))
      (step services database' (.revoke auth id updatedAt failure)) := by
  have user := user_given authenticated
  simp only [step]
  rcases verifyOwnership_alike services id alike revokeFailure authenticated with same | ⟨wrong, refusals⟩
  · cases verdict : verifyOwnership services.uuid database.delegations revokeFailure auth id with
    | reply status code message =>
      simp only [revokeDelegationHandler, verdict, same.symm.trans verdict]
      exact indistinct_same alike.owned
    | next =>
      have rows := findOwn_alike services alike id
      cases found : findOwn services database userId id with
      | error message =>
        simp only [revokeDelegationHandler, verdict, same.symm.trans verdict, user, found, rows.symm.trans found]
        exact indistinct_same alike.owned
      | ok held =>
        cases held with
        | none =>
          simp only [revokeDelegationHandler, verdict, same.symm.trans verdict, user, found,
            rows.symm.trans found]
          exact indistinct_same alike.owned
        | some delegation =>
          cases failure with
          | some message =>
            simp only [revokeDelegationHandler, verdict, same.symm.trans verdict, user, found,
              rows.symm.trans found]
            exact indistinct_same alike.owned
          | none =>
            simp only [revokeDelegationHandler, verdict, same.symm.trans verdict, user, found,
              rows.symm.trans found]
            exact indistinct_same (alike.set (findOwn_owned found) revoke_id revoke_userId)
  · have refused := refusals database (by simp)
    have refused' := refusals database' (by simp)
    obtain ⟨status, code, message, told⟩ := refusal_told refused
    obtain ⟨status', code', message', told'⟩ := refusal_told refused'
    simp only [revokeDelegationHandler, told, told']
    exact indistinct_refused alike wrong refused refused' told told'

theorem create_indistinct (alike : Alike userId reserved database database')
    (authenticated : truthy auth.userId = some userId) (body : Except BodyError Json) {creation : Creation}
    (taken : reserved creation.newId) :
    Indistinct services.uuid userId (.create auth body creation)
      (step services database (.create auth body creation))
      (step services database' (.create auth body creation)) := by
  simp only [step]
  cases body with
  | error error =>
    simp only [createDelegationHandler, authenticated]
    exact indistinct_same alike.owned
  | ok body =>
    cases details : validateSchema services.ajv CreateDelegationSchema body with
    | cons detail details =>
      simp only [createDelegationHandler, authenticated, details]
      exact indistinct_same alike.owned
    | nil =>
      cases named : services.uuid ((textOf body "walletId").getD "") with
      | none =>
        simp only [createDelegationHandler, authenticated, details, named]
        exact indistinct_same alike.owned
      | some walletId =>
        by_cases nobodys : (database.wallets.all fun wallet =>
            wallet.id ≠ walletId || wallet.userId ≠ userId) = true
        · simp only [createDelegationHandler, authenticated, details, named, ← alike.wallets, nobodys, if_true]
          exact indistinct_same alike.owned
        · cases failure : creation.failure with
          | some message =>
            simp only [createDelegationHandler, authenticated, details, named, ← alike.wallets, nobodys,
              Bool.false_eq_true, if_false, failure]
            exact indistinct_same alike.owned
          | none =>
            cases made : newDelegation userId walletId body creation with
            | error message =>
              simp only [createDelegationHandler, authenticated, details, named, ← alike.wallets, nobodys,
                Bool.false_eq_true, if_false, failure, made]
              exact indistinct_same alike.owned
            | ok row =>
              obtain ⟨owner, id⟩ := newDelegation_owner made
              have taken' : reserved row.id := by rwa [id]
              have same := alike.fresh taken'
              by_cases fresh : row.id ∉ database.delegations.rows.map Delegation.id
              · have fresh' := same.mp fresh
                simp only [createDelegationHandler, authenticated, details, named, ← alike.wallets, nobodys,
                  Bool.false_eq_true, if_false, failure, made, dif_pos fresh, dif_pos fresh']
                refine indistinct_same ?_
                rw [ownedBy_insert, ownedBy_insert, alike.owned]
              · have stale := fun fresh' => fresh (same.mpr fresh')
                simp only [createDelegationHandler, authenticated, details, named, ← alike.wallets, nobodys,
                  Bool.false_eq_true, if_false, failure, made, dif_neg fresh, dif_neg stale]
                exact indistinct_same alike.owned

theorem list_indistinct (alike : Alike userId reserved database database')
    (authenticated : truthy auth.userId = some userId) (searchParams : List (String × String)) :
    Indistinct services.uuid userId (.list auth searchParams)
      (step services database (.list auth searchParams)) (step services database' (.list auth searchParams)) := by
  have same : listDelegationsHandler services.uuid services.order database.delegations auth searchParams =
      listDelegationsHandler services.uuid services.order database'.delegations auth searchParams := by
    simp only [listDelegationsHandler, authenticated, findAll_alike alike]
  simp only [step, same]
  exact indistinct_same alike.owned

theorem get_indistinct (alike : Alike userId reserved database database')
    (authenticated : truthy auth.userId = some userId) :
    Indistinct services.uuid userId (.get auth id)
      (step services database (.get auth id)) (step services database' (.get auth id)) := by
  have same : getDelegationHandler services database auth id = getDelegationHandler services database' auth id := by
    simp only [getDelegationHandler, authenticated, findOwn_alike services alike]
  simp only [step, same]
  exact indistinct_same alike.owned

theorem step_indistinct (services : Services) (alike : Alike userId reserved database database')
    (input : Tenanted userId reserved) (own : input.request.userId = some userId) :
    Indistinct services.uuid userId input.request (step services database input.request)
      (step services database' input.request) := by
  obtain ⟨request, _, apart⟩ := input
  cases request with
  | create auth body creation =>
    exact create_indistinct alike own body ((apart auth body creation rfl).mpr own)
  | list auth searchParams => exact list_indistinct alike own searchParams
  | get auth id => exact get_indistinct alike own
  | update auth id body updatedAt failure => exact update_indistinct alike own body failure
  | revoke auth id updatedAt failure => exact revoke_indistinct alike own failure

end Alike

section Isolation

variable {userId : String} {reserved : String → Prop}

def others (userId : String) (reserved : String → Prop) (input : Tenanted userId reserved) : Bool :=
  input.request.userId ≠ some userId

theorem serve_change (services : Services) (database : Database) (input : Tenanted userId reserved) :
    Change input.request database (serve services database input).2 := by
  unfold serve
  cases input.failed services with
  | some answer => exact .none
  | none => exact step_change services database input.request

theorem serve_request (services : Services) (database : Database) (input : Tenanted userId reserved) :
    (serve services database input).1.1 = input.request := by
  unfold serve
  split <;> rfl

theorem serve_indistinct (services : Services) {database database' : Database}
    (alike : Alike userId reserved database database') (input : Tenanted userId reserved)
    (own : input.request.userId = some userId) :
    Indistinct services.uuid userId input.request
      ((serve services database input).1.2, (serve services database input).2)
      ((serve services database' input).1.2, (serve services database' input).2) := by
  unfold serve
  cases input.failed services with
  | some answer => exact indistinct_same alike.owned
  | none => exact step_indistinct services alike input own

theorem tenant_unwinding (services : Services) :
    Unwinding (serve services) (shownTo services.uuid userId) (others userId reserved)
      (Alike userId reserved) := by
  constructor
  case skipped =>
    intro database database' input hidden alike
    have other : input.request.userId ≠ some userId := by simpa [others] using hidden
    have change := serve_change services database input
    have unseen : (serve services database input).1.1.userId ≠ some userId := by
      rw [serve_request]
      exact other
    refine ⟨?_, if_neg unseen⟩
    exact
      { owned := (change.others other).trans alike.owned
        wallets := change.wallets.trans alike.wallets
        reserves := change.reserves alike.reserves
        reserves' := alike.reserves' }
  case matched =>
    intro database database' input shown alike
    have own : input.request.userId = some userId := by simpa [others] using shown
    have change := serve_change services database input
    have change' := serve_change services database' input
    have indistinct := serve_indistinct services alike input own
    have output (either : Database) : (serve services either input).1 =
        (input.request, (serve services either input).1.2) := by
      rw [← serve_request services either input]
    refine ⟨?_, ?_⟩
    · exact
        { owned := indistinct.owned
          wallets := change.wallets.trans (alike.wallets.trans change'.wallets.symm)
          reserves := change.reserves alike.reserves
          reserves' := change'.reserves alike.reserves' }
    · rw [output database, output database']
      exact indistinct.answers

/-- What a user gets from the handlers of delegations is what the user would get with nobody else there:
answer for answer, the lists and the failures too. Only in the refusal of a change whose id is misspelled
may the status tell something of others' delegations. -/
theorem tenant_isolated (services : Services) (userId : String) (reserved : String → Prop) (start : Database)
    (apart : ∀ row ∈ start.delegations.rows, reserved row.id → row.userId = userId)
    (inputs : List (Tenanted userId reserved)) :
    seen (serve services) (shownTo services.uuid userId) start inputs =
      seen (serve services) (shownTo services.uuid userId) start
        (inputs.filter fun input => input.request.userId = some userId) ∧
    (Run.final (serve services) start inputs).delegations.ownedBy userId =
      (Run.final (serve services) start
        (inputs.filter fun input => input.request.userId = some userId)).delegations.ownedBy userId := by
  have alike : Alike userId reserved start start := ⟨rfl, rfl, apart, apart⟩
  have shown := (tenant_unwinding services).shown alike inputs
  have own : (inputs.filter fun input => ! others userId reserved input) =
      inputs.filter fun input => input.request.userId = some userId := by
    simp [others]
  rw [own] at shown
  exact ⟨shown.2, shown.1.owned⟩

-- Another user tries to revoke a delegation, its owner lists what there is, is failed by the database, and
-- revokes it.
def foreignRevocation : Tenanted "ana" (· = missingId) where
  request := .revoke ⟨some "bo", none⟩ ownedId "2026-01-02T00:00:00.000Z" none
  unread := none
  apart := nofun

def ownListing : Tenanted "ana" (· = missingId) where
  request := .list anaAuth []
  unread := none
  apart := nofun

def failedListing : Tenanted "ana" (· = missingId) where
  request := .list anaAuth []
  unread := some "Connection terminated"
  apart := nofun

def ownRevocation : Tenanted "ana" (· = missingId) where
  request := .revoke anaAuth ownedId "2026-01-02T00:00:00.000Z" none
  unread := none
  apart := nofun

def tenantRun : List (Tenanted "ana" (· = missingId)) :=
  [ownRevocation, failedListing, ownListing, foreignRevocation]

theorem tenant_isolated_listing :
    seen (serve plainServices) (shownTo plainServices.uuid "ana") ownedDatabase tenantRun =
      seen (serve plainServices) (shownTo plainServices.uuid "ana") ownedDatabase
        (tenantRun.filter fun input => input.request.userId = some "ana") ∧
    (Run.final (serve plainServices) ownedDatabase tenantRun).delegations.ownedBy "ana" =
      (Run.final (serve plainServices) ownedDatabase
        (tenantRun.filter fun input => input.request.userId = some "ana")).delegations.ownedBy "ana" := by
  refine tenant_isolated plainServices "ana" (· = missingId) ownedDatabase ?_ tenantRun
  simp [ownedDatabase, ownedTable, ownedId, missingId, sampleDelegation]

end Isolation

end Delego.Gateway.Delegations
