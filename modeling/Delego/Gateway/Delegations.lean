import Delego.Gateway.Tokens
import Delego.Shared.Pages

set_option autoImplicit false

namespace Delego.Gateway.Delegations

open Shared Shared.Text Shared.Pages

inductive SortDirection where
  | asc
  | desc
  deriving DecidableEq

structure PaginationQuery where
  limit : Nat
  cursor : Option String
  sort : SortDirection
  deriving DecidableEq

structure PaginationErrorDetail where
  field : String
  message : String
  deriving DecidableEq

def defaultLimit : Nat := 20

def maxLimit : Nat := 100

def cursorPattern (cursor : String) : Bool :=
  1 ≤ cursor.length && cursor.length ≤ 256 &&
    cursor.toList.all fun c => c.isAlphanum || c = '_' || c = '-'

def parseLimit (rawLimit : Option String) : Except PaginationErrorDetail Nat :=
  match rawLimit with
  | none => .ok defaultLimit
  | some rawLimit =>
    match Number.ofText rawLimit with
    | .finite parsed =>
      if parsed.den ≠ 1 ∨ parsed < 1 then .error ⟨"limit", "limit must be a positive integer"⟩
      else .ok (min parsed.num.toNat maxLimit)
    | _ => .error ⟨"limit", "limit must be a positive integer"⟩

def parseSort (rawSort : Option String) : Except PaginationErrorDetail SortDirection :=
  match rawSort.getD "desc" with
  | "asc" => .ok .asc
  | "desc" => .ok .desc
  | _ => .error ⟨"sort", "sort must be 'asc' or 'desc'"⟩

def parseCursor (cursor : Option String) : Except PaginationErrorDetail (Option String) :=
  match cursor with
  | some cursor => if cursorPattern cursor then .ok (some cursor) else .error ⟨"cursor", "cursor is malformed"⟩
  | none => .ok none

def parsePaginationQuery (searchParams : List (String × String)) :
    Except PaginationErrorDetail PaginationQuery := do
  let limit ← parseLimit (searchParams.lookup "limit")
  let sort ← parseSort (searchParams.lookup "sort")
  let cursor ← parseCursor (searchParams.lookup "cursor")
  .ok ⟨limit, cursor, sort⟩

structure DelegationPolicy where
  allowedMerchants : List String
  allowedCategories : List String

structure SpendLimit where
  walletId : Option String
  limitPerTransaction : Option Int
  limitLifetime : Option Int

structure PermissionLevel where
  level : String

structure Delegation where
  id : String
  userId : String
  agentId : String
  status : String
  expiresAt : Option String
  createdAt : String
  updatedAt : String
  delegationPolicy : Option DelegationPolicy
  spendLimits : List SpendLimit
  permissionLevel : Option PermissionLevel

structure PolicyResponse where
  maxPerTransaction : String
  maxTotal : String
  allowedMerchants : List String
  allowedCategories : List String
  expiresAt : Option String
  deriving DecidableEq

structure DelegationResponse where
  id : String
  userId : String
  agentId : String
  walletId : Option String
  status : String
  policy : PolicyResponse
  permissionLevel : String
  createdAt : String
  updatedAt : String
  deriving DecidableEq

def formatDelegationResponse (delegation : Delegation) (policy : Option DelegationPolicy)
    (spendLimit : Option SpendLimit) (permissionLevel : Option PermissionLevel) :
    Except String DelegationResponse :=
  match spendLimit, policy, permissionLevel with
  | none, _, _ => .error "Cannot read properties of undefined (reading 'walletId')"
  | some _, none, _ => .error "Cannot read properties of null (reading 'allowedMerchants')"
  | some _, some _, none => .error "Cannot read properties of null (reading 'level')"
  | some spendLimit, some policy, some permissionLevel => .ok
    { id := delegation.id
      userId := delegation.userId
      agentId := delegation.agentId
      walletId := spendLimit.walletId
      status := delegation.status
      policy :=
        { maxPerTransaction := toString (spendLimit.limitPerTransaction.getD 0)
          maxTotal := toString (spendLimit.limitLifetime.getD 0)
          allowedMerchants := policy.allowedMerchants
          allowedCategories := policy.allowedCategories
          expiresAt := truthy delegation.expiresAt }
      permissionLevel := permissionLevel.level
      createdAt := delegation.createdAt
      updatedAt := delegation.updatedAt }

structure DelegationTable where
  rows : List Delegation
  primary : (rows.map Delegation.id).Nodup

structure ApiError where
  code : String
  message : String
  details : List PaginationErrorDetail
  deriving DecidableEq

structure ListReply where
  status : Nat
  data : Option (List DelegationResponse)
  error : Option ApiError
  deriving DecidableEq

def SortDirection.order (sort : SortDirection) (order : KeyOrder String) : KeyOrder String :=
  match sort with
  | .asc => order
  | .desc => order.reversed

-- The id that the database takes a text for, written as it writes ids itself; it refuses some texts.
abbrev UuidReader := String → Option String

def invalidUuid (text : String) : String := "invalid input syntax for type uuid: \"" ++ text ++ "\""

def rowsWhere (order : KeyOrder String) (table : DelegationTable) (userId : String) (query : PaginationQuery)
    (test : String → Bool) : List Delegation :=
  let rows := table.rows.filter fun row => row.userId = userId && test row.id
  ((query.sort.order order).sort Delegation.id rows).take query.limit

/-- The rows of a user after the cursor, in the order and up to the limit that are asked for. -/
def findAll (uuid : UuidReader) (order : KeyOrder String) (table : DelegationTable) (userId : String)
    (query : PaginationQuery) : Except String (List Delegation) :=
  match truthy query.cursor with
  | none => .ok (rowsWhere order table userId query fun _ => true)
  | some cursor =>
    match uuid cursor with
    | none => .error (invalidUuid cursor)
    | some start => .ok (rowsWhere order table userId query ((query.sort.order order).before start))

def respond (delegation : Delegation) : Except String DelegationResponse :=
  formatDelegationResponse delegation delegation.delegationPolicy delegation.spendLimits.head?
    delegation.permissionLevel

def listDelegationsHandler (uuid : UuidReader) (order : KeyOrder String) (table : DelegationTable)
    (auth : AuthContext) (searchParams : List (String × String)) : ListReply :=
  match truthy auth.userId with
  | none => ⟨401, none, some ⟨"UNAUTHORIZED", "Authentication required", []⟩⟩
  | some userId =>
    match parsePaginationQuery searchParams with
    | .error error => ⟨400, none, some ⟨"VALIDATION_ERROR", error.message, [error]⟩⟩
    | .ok query =>
      match (findAll uuid order table userId query).bind fun rows => rows.mapM respond with
      | .error message => ⟨500, none, some ⟨"INTERNAL_ERROR", message, []⟩⟩
      | .ok response => ⟨200, some response, none⟩

section Client

def searchParams (rawLimit rawSort cursor : Option String) : List (String × String) :=
  (rawLimit.map fun rawLimit => ("limit", rawLimit)).toList ++
    (rawSort.map fun rawSort => ("sort", rawSort)).toList ++
      (cursor.map fun cursor => ("cursor", cursor)).toList

def page (uuid : UuidReader) (order : KeyOrder String) (table : DelegationTable) (auth : AuthContext)
    (rawLimit rawSort cursor : Option String) : Option (List DelegationResponse) :=
  (listDelegationsHandler uuid order table auth (searchParams rawLimit rawSort cursor)).data

end Client

-- A row as `createDelegationHandler` writes it.
def Delegation.Complete (delegation : Delegation) : Prop :=
  delegation.delegationPolicy ≠ none ∧ delegation.spendLimits ≠ [] ∧ delegation.permissionLevel ≠ none

theorem respond_id {delegation : Delegation} {response : DelegationResponse}
    (answer : respond delegation = .ok response) : response.id = delegation.id := by
  unfold respond formatDelegationResponse at answer
  split at answer
  · cases answer
  · cases answer
  · cases answer
  · cases answer
    rfl

theorem respond_complete {delegation : Delegation} (complete : delegation.Complete) :
    ∃ response, respond delegation = .ok response := by
  obtain ⟨hasPolicy, hasLimit, hasLevel⟩ := complete
  obtain ⟨policy, policyIs⟩ := Option.ne_none_iff_exists'.mp hasPolicy
  obtain ⟨spendLimit, others, limitIs⟩ := List.exists_cons_of_ne_nil hasLimit
  obtain ⟨level, levelIs⟩ := Option.ne_none_iff_exists'.mp hasLevel
  simp [respond, formatDelegationResponse, policyIs, limitIs, levelIs]

theorem respond_mapM {rows : List Delegation} {responses : List DelegationResponse}
    (answers : rows.map respond = responses.map Except.ok) : rows.mapM respond = .ok responses := by
  induction rows generalizing responses with
  | nil =>
    cases responses with
    | nil => rfl
    | cons => cases answers
  | cons row rows ih =>
    cases responses with
    | nil => cases answers
    | cons response responses =>
      obtain ⟨first, later⟩ := List.cons.inj answers
      rw [List.mapM_cons, first, ih later]
      rfl

theorem respond_all {rows : List Delegation} (complete : ∀ row ∈ rows, row.Complete) :
    ∃ responses : List DelegationResponse, rows.map respond = responses.map Except.ok ∧
      responses.map DelegationResponse.id = rows.map Delegation.id := by
  induction rows with
  | nil => exact ⟨[], rfl, rfl⟩
  | cons row rows ih =>
    obtain ⟨response, answer⟩ := respond_complete (complete row List.mem_cons_self)
    obtain ⟨responses, answers, names⟩ := ih fun row member => complete row (List.mem_cons_of_mem _ member)
    exact ⟨response :: responses, by simp [answer, answers], by simp [respond_id answer, names]⟩

section Listing

variable {uuid : UuidReader} {order : KeyOrder String} {table : DelegationTable} {userId : String}

def DelegationTable.ownedBy (table : DelegationTable) (userId : String) : List Delegation :=
  table.rows.filter fun row => row.userId = userId

def listing (order : KeyOrder String) (table : DelegationTable) (userId : String) (sort : SortDirection) :
    List Delegation :=
  (sort.order order).sort Delegation.id (table.ownedBy userId)

theorem listing_perm (sort : SortDirection) :
    (listing order table userId sort).Perm (table.ownedBy userId) := KeyOrder.sort_perm ..

theorem ownedBy_nodup : ((table.ownedBy userId).map Delegation.id).Nodup :=
  table.primary.sublist (List.filter_sublist.map _)

theorem listing_sorted (sort : SortDirection) :
    (sort.order order).Sorted Delegation.id (listing order table userId sort) :=
  KeyOrder.sort_sorted _ ownedBy_nodup

theorem findAll_start {limit : Nat} {sort : SortDirection} :
    findAll uuid order table userId ⟨limit, none, sort⟩ = .ok ((listing order table userId sort).take limit) := by
  simp [findAll, rowsWhere, listing, DelegationTable.ownedBy, truthy]

theorem findAll_after {limit : Nat} {sort : SortDirection} {front back : List Delegation} {last : Delegation}
    (whole : listing order table userId sort = front ++ last :: back) (named : last.id ≠ "")
    (read : uuid last.id = some last.id) :
    findAll uuid order table userId ⟨limit, some last.id, sort⟩ = .ok (back.take limit) := by
  have sorted := @listing_sorted order table userId sort
  have both : (table.rows.filter fun row => row.userId = userId && (sort.order order).before last.id row.id) =
      (table.ownedBy userId).filter fun row => (sort.order order).before last.id row.id := by
    rw [DelegationTable.ownedBy, List.filter_filter]
    simp only [Bool.and_comm]
  have later : (sort.order order).sort Delegation.id (table.rows.filter fun row =>
      row.userId = userId && (sort.order order).before last.id row.id) = back := by
    refine KeyOrder.sorted_unique (sort.order order) (KeyOrder.sort_sorted _ ?_) ?_ ?_
    · exact table.primary.sublist (List.filter_sublist.map _)
    · rw [whole] at sorted
      exact (List.pairwise_append.mp sorted).2.1.of_cons
    · have rest := KeyOrder.filter_after (sort.order order) (whole ▸ sorted)
      rw [← whole] at rest
      rw [← rest, both]
      apply (KeyOrder.sort_perm ..).trans
      exact ((listing_perm sort).filter _).symm
  simp only [findAll, truthy_some named, read, rowsWhere, later]

theorem parseLimit_positive {rawLimit : Option String} {limit : Nat} (accepted : parseLimit rawLimit = .ok limit) :
    0 < limit := by
  unfold parseLimit at accepted
  split at accepted
  · cases accepted
    decide
  · split at accepted
    · split at accepted
      · cases accepted
      · rename_i parsed _ good
        cases accepted
        obtain ⟨integral, atLeast⟩ := not_or.mp good
        have whole := (Rat.den_eq_one_iff _).mp (not_not.mp integral)
        rw [not_lt] at atLeast
        have : 1 ≤ parsed.num := by
          rw [← whole] at atLeast
          exact_mod_cast atLeast
        simp only [maxLimit]
        omega
    · cases accepted

theorem parsePaginationQuery_searchParams {rawLimit rawSort cursor : Option String} {limit : Nat}
    {sort : SortDirection} (accepted : parseLimit rawLimit = .ok limit) (directed : parseSort rawSort = .ok sort)
    (stands : ∀ id ∈ cursor, cursorPattern id = true) :
    parsePaginationQuery (searchParams rawLimit rawSort cursor) = .ok ⟨limit, cursor, sort⟩ := by
  have limitRead : (searchParams rawLimit rawSort cursor).lookup "limit" = rawLimit := by
    cases rawLimit <;> cases rawSort <;> cases cursor <;> rfl
  have sortRead : (searchParams rawLimit rawSort cursor).lookup "sort" = rawSort := by
    cases rawLimit <;> cases rawSort <;> cases cursor <;> rfl
  have cursorRead : (searchParams rawLimit rawSort cursor).lookup "cursor" = cursor := by
    cases rawLimit <;> cases rawSort <;> cases cursor <;> rfl
  have cursorGood : parseCursor cursor = .ok cursor := by
    cases cursor with
    | none => rfl
    | some id => simp [parseCursor, stands id rfl]
  rw [parsePaginationQuery, limitRead, sortRead, cursorRead, accepted, directed, cursorGood]
  rfl

theorem page_eq {auth : AuthContext} {rawLimit rawSort cursor : Option String} {limit : Nat}
    {sort : SortDirection} {rows : List Delegation} {responses : List DelegationResponse}
    (authenticated : truthy auth.userId = some userId)
    (accepted : parseLimit rawLimit = .ok limit) (directed : parseSort rawSort = .ok sort)
    (stands : ∀ id ∈ cursor, cursorPattern id = true)
    (found : findAll uuid order table userId ⟨limit, cursor, sort⟩ = .ok rows)
    (answers : rows.map respond = responses.map Except.ok) :
    page uuid order table auth rawLimit rawSort cursor = some responses := by
  simp only [page, listDelegationsHandler, authenticated,
    parsePaginationQuery_searchParams accepted directed stands, found, Except.bind, respond_mapM answers]

/-- The pages are complete and have nothing twice. -/
theorem delegations_paginated {auth : AuthContext} {rawLimit rawSort : Option String} {limit : Nat}
    {sort : SortDirection} (complete : ∀ row ∈ table.rows, row.Complete)
    (named : ∀ row ∈ table.rows, cursorPattern row.id = true)
    (read : ∀ row ∈ table.rows, uuid row.id = some row.id) (authenticated : truthy auth.userId = some userId)
    (accepted : parseLimit rawLimit = .ok limit) (directed : parseSort rawSort = .ok sort) :
    ∃ received : List DelegationResponse,
      (∀ fuel, (table.ownedBy userId).length < fuel →
        collect DelegationResponse.id (page uuid order table auth rawLimit rawSort) limit fuel none =
          some received) ∧
      (sort.order order).Sorted DelegationResponse.id received ∧
      (received.map Except.ok).Perm ((table.ownedBy userId).map respond) := by
  have owned : ∀ row ∈ listing order table userId sort, row ∈ table.rows := fun row member =>
    List.mem_of_mem_filter ((listing_perm sort).mem_iff.mp member)
  obtain ⟨received, answers, names⟩ := respond_all fun row member => complete row (owned row member)
  refine ⟨received, ?_, ?_, ?_⟩
  · have sameLength : received.length = (table.ownedBy userId).length := by
      rw [← (@listing_perm order table userId sort).length_eq]
      simpa using congrArg List.length names
    rw [← sameLength]
    apply collect_complete (parseLimit_positive accepted)
    · apply page_eq authenticated accepted directed (by simp) findAll_start
      rw [List.map_take, answers, List.map_take]
    · -- The cursor is the id of a row that the client has got, and the row's place is the answer's.
      intro front last back split
      cases split
      rw [List.map_append, List.map_cons] at answers
      obtain ⟨seen, rest, whole, _, others⟩ := List.map_eq_append_iff.mp answers
      obtain ⟨row, later, rfl, rowAnswer, laterAnswers⟩ := List.map_eq_cons_iff.mp others
      have member := owned row (by simp [whole])
      have rowNamed := named row member
      have stated : row.id ≠ "" := by
        intro empty
        rw [empty] at rowNamed
        cases rowNamed
      rw [respond_id rowAnswer]
      apply page_eq authenticated accepted directed (by simpa using rowNamed)
        (findAll_after whole stated (read row member))
      rw [List.map_take, laterAnswers, List.map_take]
  · have sorted := @listing_sorted order table userId sort
    have ordered : (received.map DelegationResponse.id).Pairwise fun a b =>
        (sort.order order).before a b = true := by
      rw [names]
      exact List.pairwise_map.mpr sorted
    exact List.pairwise_map.mp ordered
  · rw [← answers]
    exact (listing_perm sort).map respond

end Listing

section Witness

-- A database that compares the ids as texts.
def byText : KeyOrder String where
  before a b := a < b
  irrefl a := by simp
  trans less more := by
    simp only [decide_eq_true_eq] at less more ⊢
    exact String.lt_trans less more
  total different := by
    simp only [decide_eq_true_eq]
    by_contra neither
    obtain ⟨notLess, notMore⟩ := not_or.mp neither
    exact different (String.le_antisymm (String.not_lt.mp notMore) (String.not_lt.mp notLess))

def sampleDelegation (id userId : String) : Delegation where
  id := id
  userId := userId
  agentId := "agent_1"
  status := "active"
  expiresAt := none
  createdAt := "2026-01-01T00:00:00.000Z"
  updatedAt := "2026-01-01T00:00:00.000Z"
  delegationPolicy := some ⟨["merchant_1"], []⟩
  spendLimits := [⟨some "wallet_1", some 5, none⟩]
  permissionLevel := some ⟨"spend"⟩

def sampleTable : DelegationTable where
  rows := [sampleDelegation "d-2" "ana", sampleDelegation "d-3" "bo", sampleDelegation "d-1" "ana"]
  primary := by decide

theorem delegations_paginated_one_each :
    ∃ received : List DelegationResponse,
      (∀ fuel, (sampleTable.ownedBy "ana").length < fuel →
        collect DelegationResponse.id (page some byText sampleTable ⟨some "ana", none⟩ (some "1") none) 1 fuel
          none = some received) ∧
      (SortDirection.desc.order byText).Sorted DelegationResponse.id received ∧
      (received.map Except.ok).Perm ((sampleTable.ownedBy "ana").map respond) := by
  refine delegations_paginated ?_ ?_ ?_ rfl ?_ rfl
  · simp [sampleTable, sampleDelegation, Delegation.Complete]
  · decide +kernel
  · simp
  · decide +kernel

end Witness

end Delego.Gateway.Delegations
