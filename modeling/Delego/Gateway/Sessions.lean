import Delego.Gateway.SingleUse

set_option autoImplicit false

namespace Delego.Gateway

open Shared Shared.Text

def requests : List Input → List Request
  | [] => []
  | .call request _ :: earlier => requests earlier ++ [request]
  | .answer .. :: earlier | .reject .. :: earlier => requests earlier

section Sessions

variable (service : AuthService) (database : Database)

structure PairFor (user : UserRow) (familyId : String → Prop) (tokens : TokenPair) : Prop where
  access : ∃ now, tokens.accessToken = service.generateAccessToken user.id user.email now
  refresh : ∃ row ∈ database.tokens, row.userId = user.id ∧ familyId row.familyId ∧ ∃ secret now,
    tokens.refreshToken =
      service.jwt.sign (service.refreshSigning ⟨row.id, row.familyId, row.userId, secret⟩ now)

def Redeems (rawRefreshToken : String) (used : RefreshTokenRow) : Prop :=
  ∃ decoded now, service.verifyRefreshToken rawRefreshToken now = .ok decoded ∧
    used ∈ database.tokens ∧ used.id = decoded.tokenId ∧
      service.bcrypt.compare decoded.secret used.tokenHash = true

def Admits (user : UserRow) (email password : String) : Prop :=
  user ∈ database.users ∧ user.email = email ∧
    ∃ hash, truthy user.passwordHash = some hash ∧ service.bcrypt.compare password hash = true

def Answers : Request → Reply → Prop
  | .registerUser email _ displayName, .registered user tokens =>
    user ∈ database.users ∧ user.email = email ∧ user.displayName = displayName ∧
      PairFor service database user (fun _ => True) tokens
  | .loginUser email password, .loggedIn user tokens =>
    Admits service database user email password ∧ PairFor service database user (fun _ => True) tokens
  | .refreshAccessToken rawRefreshToken, .refreshed tokens =>
    ∃ used user, Redeems service database rawRefreshToken used ∧ user ∈ database.users ∧
      user.id = used.userId ∧ PairFor service database user (· = used.familyId) tokens
  | .logoutUser _, .done | .revokeTokenFamily _, .done => True
  | _, _ => False

end Sessions

structure SessionsOwned (service : AuthService) (inputs : List Input) : Prop where
  ids : ((final service inputs).database.users.map UserRow.id).Nodup
  emails : ((final service inputs).database.users.map UserRow.email).Nodup
  lasting : ∀ newer, (final service inputs).database.users <+:
    (final service (newer ++ inputs)).database.users
  owned : ∀ row ∈ (final service inputs).database.tokens,
    ∃ user ∈ (final service inputs).database.users, user.id = row.userId
  families : ∀ row ∈ (final service inputs).database.tokens,
    ∀ row' ∈ (final service inputs).database.tokens,
      row.familyId = row'.familyId → row.userId = row'.userId
  answered : ∀ (id : Nat) request reply, (requests inputs)[id]? = some request →
    (final service inputs).calls[id]? = some (.returned (.ok reply)) →
      Answers service (final service inputs).database request reply

section Growth

variable {service : AuthService} {database database' : Database} {phase : Phase}

def Lasts (tokens : List RefreshTokenRow) (row : RefreshTokenRow) : Prop :=
  ∃ revokedAt, { row with revokedAt } ∈ tokens

structure Grown (database database' : Database) : Prop where
  users : database.users <+: database'.users
  tokens : ∀ row ∈ database.tokens, Lasts database'.tokens row

theorem Lasts.here {tokens : List RefreshTokenRow} {row : RefreshTokenRow} (member : row ∈ tokens) :
    Lasts tokens row := ⟨row.revokedAt, member⟩

theorem Lasts.grow {row : RefreshTokenRow} (lasts : Lasts database.tokens row)
    (grown : Grown database database') : Lasts database'.tokens row := by
  obtain ⟨revokedAt, member⟩ := lasts
  obtain ⟨later, member'⟩ := grown.tokens _ member
  exact ⟨later, member'⟩

theorem Grown.refl (database : Database) : Grown database database where
  users := List.prefix_rfl
  tokens _ member := .here member

theorem revoke_grown (chosen : RefreshTokenRow → Bool) (revokedAt : Nat) (database : Database) :
    Grown database { database with tokens := revoke chosen revokedAt database.tokens } where
  users := List.prefix_rfl
  tokens row member := by
    have among := List.mem_map_of_mem
      (f := fun row => if chosen row then { row with revokedAt := some revokedAt } else row) member
    by_cases taken : chosen row = true
    · exact ⟨some revokedAt, by simpa [revoke, taken] using among⟩
    · exact ⟨row.revokedAt, by simpa [revoke, taken] using among⟩

theorem operate_grown (database : Database) (phase : Phase) : Grown database (database.operate phase) := by
  cases phase with
  | createUser user =>
    simp only [Database.operate]
    split
    · exact .refl database
    · exact { users := List.prefix_append .., tokens := fun _ member => .here member }
  | revokeToken record revokedAt => exact revoke_grown ..
  | revokeFamily familyId revokedAt revoker => exact revoke_grown ..
  | createToken purpose accessToken secret row =>
    simp only [Database.operate]
    split
    · exact .refl database
    · exact { users := List.prefix_rfl, tokens := fun _ member => .here (List.mem_append_left _ member) }
  | findRegistered | findLogin | findToken | findUser | returned => exact .refl database

theorem PairFor.grow {user : UserRow} {familyId : String → Prop} {tokens : TokenPair}
    (pair : PairFor service database user familyId tokens) (grown : Grown database database') :
    PairFor service database' user familyId tokens := by
  obtain ⟨row, member, owner, family, signed⟩ := pair.refresh
  obtain ⟨revokedAt, lasting⟩ := grown.tokens row member
  exact ⟨pair.access, _, lasting, owner, family, signed⟩

theorem Answers.grow {request : Request} {reply : Reply} (answers : Answers service database request reply)
    (grown : Grown database database') : Answers service database' request reply := by
  have users {user : UserRow} (member : user ∈ database.users) : user ∈ database'.users :=
    grown.users.mem member
  cases request with
  | registerUser email password displayName =>
    cases reply with
    | registered user tokens =>
      obtain ⟨member, named, shown, pair⟩ := answers
      exact ⟨users member, named, shown, pair.grow grown⟩
    | loggedIn | refreshed | done => exact answers.elim
  | loginUser email password =>
    cases reply with
    | loggedIn user tokens =>
      obtain ⟨⟨member, admits⟩, pair⟩ := answers
      exact ⟨⟨users member, admits⟩, pair.grow grown⟩
    | registered | refreshed | done => exact answers.elim
  | refreshAccessToken rawRefreshToken =>
    cases reply with
    | refreshed tokens =>
      obtain ⟨used, user, ⟨decoded, now, verified, member, redeems⟩, among, owner, pair⟩ := answers
      obtain ⟨revokedAt, lasting⟩ := grown.tokens used member
      exact ⟨_, user, ⟨decoded, now, verified, lasting, redeems⟩, users among, owner, pair.grow grown⟩
    | registered | loggedIn | done => exact answers.elim
  | logoutUser refreshToken =>
    cases reply with
    | done => trivial
    | registered | loggedIn | refreshed => exact answers.elim
  | revokeTokenFamily familyId =>
    cases reply with
    | done => trivial
    | registered | loggedIn | refreshed => exact answers.elim

end Growth

section Service

variable (service : AuthService) (database : Database)

def Uses (request : Request) (record : RefreshTokenRow) : Prop :=
  ∃ rawRefreshToken revokedAt, request = .refreshAccessToken rawRefreshToken ∧
    Redeems service database rawRefreshToken { record with revokedAt }

def Purpose.Serves (request : Request) (user : UserRow) (row : RefreshTokenRow) : Purpose → Prop
  | .register made => made = user ∧ ∃ password, request = .registerUser user.email password user.displayName
  | .login found => found = user ∧ ∃ password, request = .loginUser user.email password ∧
      Admits service database user user.email password
  | .refresh _ => ∃ used, Uses service database request used ∧ used.userId = row.userId ∧
      used.familyId = row.familyId

def Phase.Serves (request : Request) : Phase → Prop
  | .findRegistered email password displayName => request = .registerUser email password displayName
  | .createUser user => ∃ password, request = .registerUser user.email password user.displayName
  | .findLogin email password => request = .loginUser email password
  | .findToken decoded => ∃ rawRefreshToken now, request = .refreshAccessToken rawRefreshToken ∧
      service.verifyRefreshToken rawRefreshToken now = .ok decoded
  | .revokeToken record _ | .findUser record => Uses service database request record
  | .revokeFamily _ _ .logout => ∃ refreshToken, request = .logoutUser refreshToken
  | .revokeFamily _ _ .other => ∃ familyId, request = .revokeTokenFamily familyId
  | .revokeFamily _ _ .reuse | .returned (.error _) => True
  | .createToken purpose accessToken _ row => ∃ user ∈ database.users, user.id = row.userId ∧
      (∃ now, accessToken = service.generateAccessToken user.id user.email now) ∧
        purpose.Serves service database request user row
  | .returned (.ok reply) => Answers service database request reply

end Service

section Serving

variable {service : AuthService} {database database' : Database} {request : Request} {phase : Phase}

theorem Uses.grow {record : RefreshTokenRow} (uses : Uses service database request record)
    (grown : Grown database database') : Uses service database' request record := by
  obtain ⟨raw, revokedAt, asked, decoded, now, verified, member, redeems⟩ := uses
  obtain ⟨later, lasting⟩ := grown.tokens _ member
  exact ⟨raw, later, asked, decoded, now, verified, lasting, redeems⟩

theorem Purpose.Serves.grow {purpose : Purpose} {user : UserRow} {row : RefreshTokenRow}
    (serves : purpose.Serves service database request user row) (grown : Grown database database') :
    purpose.Serves service database' request user row := by
  cases purpose with
  | register made => exact serves
  | login found =>
    obtain ⟨same, password, asked, member, admits⟩ := serves
    exact ⟨same, password, asked, grown.users.mem member, admits⟩
  | refresh tokenId =>
    obtain ⟨used, uses, same⟩ := serves
    exact ⟨used, uses.grow grown, same⟩

theorem Phase.Serves.grow (serves : phase.Serves service database request)
    (grown : Grown database database') : phase.Serves service database' request := by
  cases phase with
  | revokeToken | findUser => exact Uses.grow serves grown
  | createToken purpose accessToken secret row =>
    obtain ⟨user, member, owner, signed, serves⟩ := serves
    exact ⟨user, grown.users.mem member, owner, signed, serves.grow grown⟩
  | returned result =>
    cases result with
    | error message => trivial
    | ok reply => exact Answers.grow serves grown
  | revokeFamily familyId revokedAt revoker => cases revoker <;> exact serves
  | findRegistered | createUser | findLogin | findToken => exact serves

theorem receive_serves (database : Database) (request : Request) (now : Nat) :
    (service.receive request now).Serves service database request := by
  cases request with
  | registerUser email password displayName =>
    simp only [AuthService.receive]
    split
    · trivial
    · rfl
  | loginUser email password =>
    simp only [AuthService.receive]
    split
    · trivial
    · rfl
  | logoutUser refreshToken =>
    simp only [AuthService.receive]
    split
    · trivial
    · split
      · exact ⟨_, rfl⟩
      · trivial
  | refreshAccessToken rawRefreshToken =>
    simp only [AuthService.receive]
    split
    · next verified => exact ⟨_, now, rfl, verified⟩
    · trivial
  | revokeTokenFamily familyId => exact ⟨_, rfl⟩

theorem failed_serves (serves : phase.Serves service database request) (message : String) :
    (phase.failed message).Serves service database request := by
  cases phase with
  | revokeFamily familyId revokedAt revoker =>
    cases revoker with
    | logout =>
      obtain ⟨refreshToken, asked⟩ := serves
      subst asked
      trivial
    | reuse | other => trivial
  | findRegistered | createUser | findLogin | findToken | revokeToken | findUser | createToken | returned =>
    trivial

structure Accounts (database : Database) : Prop where
  ids : (database.users.map UserRow.id).Nodup
  emails : (database.users.map UserRow.email).Nodup
  owned : ∀ row ∈ database.tokens, ∃ user ∈ database.users, user.id = row.userId

theorem generateTokens_serves {purpose : Purpose} {user : UserRow} {familyId : Option String} {now drawn : Nat}
    (member : user ∈ database.users)
    (serves : ∀ row : RefreshTokenRow, row.userId = user.id → (∀ family ∈ familyId, row.familyId = family) →
      purpose.Serves service database request user row) :
    (service.generateTokens purpose user.id user.email familyId now drawn).1.Serves service database
      request := by
  refine ⟨user, member, rfl, ⟨now, rfl⟩, serves _ rfl ?_⟩
  intro family same
  rw [Option.mem_def] at same
  simp [same]

theorem find_key {α κ : Type} [DecidableEq κ] {key : α → κ} {rows : List α} (unique : (rows.map key).Nodup)
    {row : α} (member : row ∈ rows) : rows.find? (fun other => key other = key row) = some row := by
  cases found : rows.find? fun other => key other = key row with
  | none =>
    have absent := List.find?_eq_none.mp found row member
    simp at absent
  | some other =>
    have same : key other = key row := by simpa using List.find?_some found
    rw [List.inj_on_of_nodup_map unique (List.mem_of_find?_eq_some found) member same]

theorem Accounts.find (accounts : Accounts database) {user : UserRow} (member : user ∈ database.users) :
    database.users.find? (fun other => other.id = user.id) = some user :=
  find_key accounts.ids member

theorem proceed_serves (accounts : Accounts database) (now drawn : Nat)
    (serves : phase.Serves service database request) :
    (service.proceed database now drawn phase).1.1.Serves service (database.operate phase) request := by
  cases phase with
  | findRegistered email password displayName =>
    simp only [AuthService.proceed]
    split
    · trivial
    · exact ⟨password, serves⟩
  | createUser user =>
    simp only [AuthService.proceed, Database.operate]
    split
    · trivial
    · exact generateTokens_serves (List.mem_append_right _ List.mem_cons_self) fun _ _ _ => ⟨rfl, serves⟩
  | findLogin email password =>
    simp only [AuthService.proceed, Database.operate]
    split
    · trivial
    · next user found =>
      have member := List.mem_of_find?_eq_some found
      have named : user.email = email := by simpa using List.find?_some found
      split
      · trivial
      · next hash given =>
        split
        · next matched =>
          subst named
          exact generateTokens_serves member fun _ _ _ =>
            ⟨rfl, password, serves, member, rfl, hash, given, matched⟩
        · trivial
  | findToken decoded =>
    obtain ⟨raw, verifiedAt, asked, verified⟩ := serves
    simp only [AuthService.proceed, Database.operate]
    split
    · trivial
    · next record found =>
      have member := List.mem_of_find?_eq_some found
      have named : record.id = decoded.tokenId := by simpa using List.find?_some found
      split
      · trivial
      · next matched =>
        split
        · trivial
        · split
          · trivial
          · exact ⟨raw, record.revokedAt, asked, decoded, verifiedAt, verified, member, named,
              not_not.mp matched⟩
  | revokeToken record revokedAt =>
    have later := Uses.grow serves (operate_grown database (.revokeToken record revokedAt))
    simp only [AuthService.proceed]
    split
    · exact later
    · trivial
  | revokeFamily familyId revokedAt revoker =>
    cases revoker with
    | logout =>
      obtain ⟨refreshToken, asked⟩ := serves
      subst asked
      trivial
    | other =>
      obtain ⟨familyId, asked⟩ := serves
      subst asked
      trivial
    | reuse => trivial
  | findUser record =>
    obtain ⟨raw, revokedAt, asked, redeems⟩ := serves
    obtain ⟨decoded, verifiedAt, verified, stored, named, matched⟩ := redeems
    obtain ⟨user, member, owner⟩ := accounts.owned _ stored
    have same : record.userId = user.id := owner.symm
    have email : ((database.users.find? fun other => other.id = user.id).map UserRow.email).getD "" =
        user.email := by
      rw [accounts.find member]
      rfl
    simp only [AuthService.proceed, Database.operate, same, email]
    refine generateTokens_serves member fun row user' family => ?_
    exact ⟨record, ⟨raw, revokedAt, asked, decoded, verifiedAt, verified, stored, named, matched⟩,
      same.trans user'.symm, (family _ rfl).symm⟩
  | createToken purpose accessToken secret row =>
    have grown := operate_grown database (.createToken purpose accessToken secret row)
    obtain ⟨user, member, owner, signed, serves⟩ := serves
    have later := serves.grow grown
    have among := grown.users.mem member
    simp only [AuthService.proceed]
    split
    · trivial
    · next free =>
      have stored : row ∈ (database.operate (.createToken purpose accessToken secret row)).tokens := by
        simp [Database.operate, free]
      have pair (familyId : String → Prop) (family : familyId row.familyId) :
          PairFor service (database.operate (.createToken purpose accessToken secret row)) user familyId
            (service.tokenPair accessToken secret row now) :=
        ⟨signed, row, stored, owner.symm, family, secret, now, rfl⟩
      cases purpose with
      | register made =>
        obtain ⟨same, password, asked⟩ := later
        subst same asked
        exact ⟨among, rfl, rfl, pair _ trivial⟩
      | login found =>
        obtain ⟨same, password, asked, admits⟩ := later
        subst same asked
        exact ⟨admits, pair _ trivial⟩
      | refresh tokenId =>
        obtain ⟨used, ⟨raw, revokedAt, asked, redeems⟩, owned, family⟩ := later
        subst asked
        exact ⟨_, user, redeems, among, owner.trans owned.symm, pair _ family.symm⟩
  | returned result => exact serves

theorem operate_accounts (accounts : Accounts database) (serves : phase.Serves service database request) :
    Accounts (database.operate phase) := by
  have revoked (chosen : RefreshTokenRow → Bool) (revokedAt : Nat) :
      Accounts { database with tokens := revoke chosen revokedAt database.tokens } := by
    refine { ids := accounts.ids, emails := accounts.emails, owned := ?_ }
    intro row member
    obtain ⟨old, member', written⟩ := List.mem_map.mp member
    obtain ⟨user, among, owner⟩ := accounts.owned old member'
    refine ⟨user, among, ?_⟩
    split at written
    · subst written
      exact owner
    · subst written
      exact owner
  cases phase with
  | createUser user =>
    simp only [Database.operate]
    split
    · exact accounts
    · next free =>
      have apart : ∀ other ∈ database.users, other.id ≠ user.id ∧ other.email ≠ user.email := by
        intro other member
        constructor <;>
        · intro same
          exact free (List.any_eq_true.mpr ⟨other, member, by simp [UserRow.clashes, same]⟩)
      refine { ids := ?_, emails := ?_, owned := ?_ }
      · rw [List.map_append, List.nodup_append]
        refine ⟨accounts.ids, List.nodup_singleton _, ?_⟩
        intro id member other single same
        obtain ⟨held, among, named⟩ := List.mem_map.mp member
        rw [List.map_singleton, List.mem_singleton] at single
        exact (apart held among).1 (named.trans (same.trans single))
      · rw [List.map_append, List.nodup_append]
        refine ⟨accounts.emails, List.nodup_singleton _, ?_⟩
        intro email member other single same
        obtain ⟨held, among, named⟩ := List.mem_map.mp member
        rw [List.map_singleton, List.mem_singleton] at single
        exact (apart held among).2 (named.trans (same.trans single))
      · intro row member
        obtain ⟨owner, among, same⟩ := accounts.owned row member
        exact ⟨owner, List.mem_append_left _ among, same⟩
  | revokeToken record revokedAt => exact revoked _ _
  | revokeFamily familyId revokedAt revoker => exact revoked _ _
  | createToken purpose accessToken secret row =>
    obtain ⟨user, among, owner, _⟩ := serves
    simp only [Database.operate]
    split
    · exact accounts
    · refine { ids := accounts.ids, emails := accounts.emails, owned := ?_ }
      intro held member
      rcases List.mem_append.mp member with old | new
      · exact accounts.owned held old
      · rw [List.mem_singleton.mp new]
        exact ⟨user, among, owner⟩
  | findRegistered | findLogin | findToken | findUser | returned => exact accounts

end Serving

section Families

variable {service : AuthService} {system : System} {database : Database} {phase phase' : Phase}
  {family user other : String} {drawn drawn' : Nat}

def Phase.holds : Phase → Option (String × String)
  | .revokeToken record _ | .findUser record => some (record.familyId, record.userId)
  | .createToken _ _ _ row => some (row.familyId, row.userId)
  | _ => none

def Keeps (tokens : List RefreshTokenRow) (family user : String) : Prop :=
  ∃ row ∈ tokens, row.familyId = family ∧ row.userId = user

def System.Holds (system : System) (family user : String) : Prop :=
  Keeps system.database.tokens family user ∨ ∃ phase ∈ system.calls, phase.holds = some (family, user)

structure Families (service : AuthService) (system : System) : Prop where
  named : ∀ family user, system.Holds family user → Drawn service system.drawn family
  single : ∀ family user other, system.Holds family user → system.Holds family other → user = other

def Fresh (service : AuthService) (drawn drawn' : Nat) (family : String) : Prop :=
  ∃ number, drawn ≤ number ∧ number < drawn' ∧ family = service.randomUUID number

theorem revoke_keeps {tokens : List RefreshTokenRow} {chosen : RefreshTokenRow → Bool} {revokedAt : Nat}
    (keeps : Keeps (revoke chosen revokedAt tokens) family user) : Keeps tokens family user := by
  obtain ⟨row, member, same⟩ := keeps
  obtain ⟨old, member', written⟩ := List.mem_map.mp member
  refine ⟨old, member', ?_⟩
  split at written
  · subst written
    exact same
  · subst written
    exact same

theorem operate_keeps (keeps : Keeps (database.operate phase).tokens family user) :
    Keeps database.tokens family user ∨ phase.holds = some (family, user) := by
  cases phase with
  | createUser made =>
    simp only [Database.operate] at keeps
    split at keeps
    · exact .inl keeps
    · exact .inl keeps
  | revokeToken record revokedAt => exact .inl (revoke_keeps keeps)
  | revokeFamily familyId revokedAt revoker => exact .inl (revoke_keeps keeps)
  | createToken purpose accessToken secret row =>
    simp only [Database.operate] at keeps
    split at keeps
    · exact .inl keeps
    · obtain ⟨held, member, same⟩ := keeps
      rcases List.mem_append.mp member with old | new
      · exact .inl ⟨held, old, same⟩
      · obtain rfl := List.mem_singleton.mp new
        simp [Phase.holds, same]
  | findRegistered | findLogin | findToken | findUser | returned => exact .inl keeps

theorem generateTokens_holds {purpose : Purpose} {userId email : String} {familyId : Option String} {now : Nat}
    (holds : (service.generateTokens purpose userId email familyId now drawn).1.holds = some (family, user)) :
    user = userId ∧ (familyId = some family ∨
      Fresh service drawn (service.generateTokens purpose userId email familyId now drawn).2 family) := by
  cases familyId with
  | some given =>
    simp only [AuthService.generateTokens, Phase.holds, Option.some.injEq, Prod.mk.injEq] at holds
    exact ⟨holds.2.symm, .inl (by rw [holds.1])⟩
  | none =>
    simp only [AuthService.generateTokens, Phase.holds, Option.some.injEq, Prod.mk.injEq] at holds
    refine ⟨holds.2.symm, .inr ⟨drawn + 1, Nat.le_succ _, ?_, holds.1.symm⟩⟩
    simp only [AuthService.generateTokens]
    omega

theorem generateTokens_drawn {purpose : Purpose} {userId email : String} {familyId : Option String} {now : Nat} :
    drawn ≤ (service.generateTokens purpose userId email familyId now drawn).2 := by
  cases familyId <;> simp only [AuthService.generateTokens] <;> omega

theorem proceed_holds (now : Nat)
    (holds : (service.proceed database now drawn phase).1.1.holds = some (family, user)) :
    Keeps database.tokens family user ∨ phase.holds = some (family, user) ∨
      Fresh service drawn (service.proceed database now drawn phase).1.2 family := by
  cases phase with
  | findRegistered email password displayName =>
    simp only [AuthService.proceed] at holds
    split at holds <;> cases holds
  | createUser made =>
    simp only [AuthService.proceed] at holds ⊢
    split at holds
    · cases holds
    · next free =>
      obtain ⟨_, absent | fresh⟩ := generateTokens_holds holds
      · cases absent
      · simp [free, fresh]
  | findLogin email password =>
    simp only [AuthService.proceed] at holds ⊢
    split at holds
    · cases holds
    · next found =>
      split at holds
      · cases holds
      · next given =>
        split at holds
        · next matched =>
          obtain ⟨_, absent | fresh⟩ := generateTokens_holds holds
          · cases absent
          · simp [matched, fresh]
        · cases holds
  | findToken decoded =>
    simp only [AuthService.proceed] at holds
    split at holds
    · cases holds
    · next record found =>
      split at holds
      · cases holds
      · split at holds
        · cases holds
        · split at holds
          · cases holds
          · simp only [Phase.holds, Option.some.injEq, Prod.mk.injEq] at holds
            exact .inl ⟨record, List.mem_of_find?_eq_some found, holds⟩
  | revokeToken record revokedAt =>
    simp only [AuthService.proceed] at holds
    split at holds
    · exact .inr (.inl holds)
    · cases holds
  | revokeFamily familyId revokedAt revoker => cases holds
  | findUser record =>
    obtain ⟨owner, same | fresh⟩ := generateTokens_holds holds
    · right
      left
      cases same
      rw [owner]
      rfl
    · exact .inr (.inr fresh)
  | createToken purpose accessToken secret row =>
    simp only [AuthService.proceed] at holds
    split at holds <;> cases holds
  | returned result => cases holds

theorem proceed_drawn (database : Database) (now drawn : Nat) (phase : Phase) :
    drawn ≤ (service.proceed database now drawn phase).1.2 := by
  cases phase with
  | findRegistered email password displayName =>
    simp only [AuthService.proceed]
    split
    · exact le_rfl
    · exact Nat.le_succ _
  | createUser made =>
    simp only [AuthService.proceed]
    split
    · exact le_rfl
    · exact generateTokens_drawn
  | findLogin email password =>
    simp only [AuthService.proceed]
    repeat' split
    all_goals first | exact le_rfl | exact generateTokens_drawn
  | findToken decoded =>
    simp only [AuthService.proceed]
    repeat' split
    all_goals exact le_rfl
  | revokeToken record revokedAt =>
    simp only [AuthService.proceed]
    split <;> exact le_rfl
  | revokeFamily familyId revokedAt revoker => exact le_rfl
  | findUser record => exact generateTokens_drawn
  | createToken purpose accessToken secret row =>
    simp only [AuthService.proceed]
    split <;> exact le_rfl
  | returned result => exact le_rfl

theorem Families.turned {id : Nat} (families : Families service system)
    (tokens : ∀ family user, Keeps database.tokens family user → system.Holds family user)
    (held : ∀ family user, phase'.holds = some (family, user) →
      system.Holds family user ∨ Fresh service system.drawn drawn' family)
    (later : system.drawn ≤ drawn') :
    Families service ⟨database, system.calls.set id phase', drawn'⟩ := by
  have before {family user : String}
      (holds : System.Holds ⟨database, system.calls.set id phase', drawn'⟩ family user) :
      system.Holds family user ∨
        phase'.holds = some (family, user) ∧ Fresh service system.drawn drawn' family := by
    rcases holds with kept | ⟨phase, member, holding⟩
    · exact .inl (tokens family user kept)
    · rcases List.mem_or_eq_of_mem_set member with old | new
      · exact .inl (.inr ⟨phase, old, holding⟩)
      · subst new
        rcases held family user holding with known | fresh
        · exact .inl known
        · exact .inr ⟨holding, fresh⟩
  have apart {family user : String} (known : system.Holds family user)
      (fresh : Fresh service system.drawn drawn' family) : False := by
    obtain ⟨number, small, same⟩ := families.named family user known
    obtain ⟨number', large, _, same'⟩ := fresh
    have equal := service.randomUUID.injective (same.symm.trans same')
    omega
  constructor
  case named =>
    intro family user holds
    rcases before holds with known | ⟨_, number, _, small, same⟩
    · exact (families.named family user known).later later
    · exact ⟨number, small, same⟩
  case single =>
    intro family user other holds holds'
    rcases before holds with known | ⟨own, fresh⟩
    · rcases before holds' with known' | ⟨_, fresh⟩
      · exact families.single family user other known known'
      · exact (apart known fresh).elim
    · rcases before holds' with known' | ⟨own', _⟩
      · exact (apart known' fresh).elim
      · have same := own.symm.trans own'
        simpa using same

end Families

section Run

variable {service : AuthService} {asked : List Request} {system : System} {database : Database}
  {phase phase' : Phase} {drawn' : Nat}

structure Sound (service : AuthService) (asked : List Request) (system : System) : Prop where
  accounts : Accounts system.database
  families : Families service system
  placed : system.calls.length = asked.length
  serves : ∀ (id : Nat) phase request, system.calls[id]? = some phase → asked[id]? = some request →
    phase.Serves service system.database request

theorem receive_holds (request : Request) (now : Nat) : (service.receive request now).holds = none := by
  cases request with
  | registerUser | loginUser =>
    simp only [AuthService.receive]
    split <;> rfl
  | logoutUser refreshToken =>
    simp only [AuthService.receive]
    split
    · rfl
    · split <;> rfl
  | refreshAccessToken rawRefreshToken =>
    simp only [AuthService.receive]
    split <;> rfl
  | revokeTokenFamily familyId => rfl

theorem failed_holds (message : String) (phase : Phase) : (phase.failed message).holds = none := by
  obtain ⟨result, returned⟩ := phase.failed_returned message
  rw [returned]
  rfl

theorem Sound.called (sound : Sound service asked system) (request : Request) (now : Nat) :
    Sound service (asked ++ [request]) { system with calls := system.calls ++ [service.receive request now] } := by
  have before {family user : String}
      (holds : System.Holds { system with calls := system.calls ++ [service.receive request now] } family user) :
      system.Holds family user := by
    rcases holds with kept | ⟨phase, member, holding⟩
    · exact .inl kept
    · rcases List.mem_append.mp member with old | new
      · exact .inr ⟨phase, old, holding⟩
      · rw [List.mem_singleton.mp new, receive_holds] at holding
        cases holding
  constructor
  case accounts => exact sound.accounts
  case families =>
    exact {
      named := fun family user holds => sound.families.named family user (before holds)
      single := fun family user other holds holds' =>
        sound.families.single family user other (before holds) (before holds') }
  case placed => simp [sound.placed]
  case serves =>
    intro id phase request' found awaited
    by_cases old : id < asked.length
    · rw [List.getElem?_append_left (sound.placed ▸ old)] at found
      rw [List.getElem?_append_left old] at awaited
      exact sound.serves id phase request' found awaited
    · rw [List.getElem?_append_right (Nat.le_of_not_lt (sound.placed ▸ old)), sound.placed] at found
      rw [List.getElem?_append_right (by omega)] at awaited
      obtain rfl := List.mem_singleton.mp (List.mem_of_getElem? found)
      obtain rfl := List.mem_singleton.mp (List.mem_of_getElem? awaited)
      exact receive_serves system.database _ now

theorem Sound.turned {id : Nat} (sound : Sound service asked system) (accounts : Accounts database)
    (grown : Grown system.database database)
    (families : Families service ⟨database, system.calls.set id phase', drawn'⟩)
    (serves : ∀ request, asked[id]? = some request → phase'.Serves service database request) :
    Sound service asked ⟨database, system.calls.set id phase', drawn'⟩ := by
  refine { accounts, families, placed := by simp [sound.placed], serves := ?_ }
  intro place phase request found awaited
  by_cases own : id = place
  · subst own
    have inside : id < system.calls.length := by
      rw [sound.placed]
      exact (List.getElem?_eq_some_iff.mp awaited).1
    rw [List.getElem?_set_self inside, Option.some.injEq] at found
    subst found
    exact serves request awaited
  · rw [List.getElem?_set_ne own] at found
    exact (sound.serves place phase request found awaited).grow grown

theorem Sound.request {id : Nat} (sound : Sound service asked system) (found : system.calls[id]? = some phase) :
    ∃ request, asked[id]? = some request ∧ phase.Serves service system.database request := by
  have inside : id < asked.length := by
    rw [← sound.placed]
    exact (List.getElem?_eq_some_iff.mp found).1
  exact ⟨asked[id], List.getElem?_eq_getElem inside,
    sound.serves id phase _ found (List.getElem?_eq_getElem inside)⟩

theorem System.Holds.of_operate {id : Nat} {family user : String} (found : system.calls[id]? = some phase)
    (keeps : Keeps (system.database.operate phase).tokens family user) : system.Holds family user := by
  rcases operate_keeps keeps with kept | held
  · exact .inl kept
  · exact .inr ⟨phase, List.mem_of_getElem? found, held⟩

theorem Sound.answered {id : Nat} (sound : Sound service asked system) (now : Nat)
    (found : system.calls[id]? = some phase) :
    Sound service asked ⟨system.database.operate phase,
      system.calls.set id (service.proceed system.database now system.drawn phase).1.1,
      (service.proceed system.database now system.drawn phase).1.2⟩ := by
  obtain ⟨request, awaited, serves⟩ := sound.request found
  refine sound.turned (operate_accounts sound.accounts serves) (operate_grown ..)
    (sound.families.turned (fun family user => .of_operate found) ?_ (proceed_drawn ..)) ?_
  · intro family user holds
    rcases proceed_holds now holds with kept | own | fresh
    · exact .inl (.inl kept)
    · exact .inl (.inr ⟨phase, List.mem_of_getElem? found, own⟩)
    · exact .inr fresh
  · intro request' awaited'
    obtain rfl := Option.some.inj (awaited.symm.trans awaited')
    exact proceed_serves sound.accounts now system.drawn serves

theorem Sound.rejected {id : Nat} (sound : Sound service asked system) (message : String) (effective : Bool)
    (found : system.calls[id]? = some phase) :
    Sound service asked { system with
      database := if effective then system.database.operate phase else system.database
      calls := system.calls.set id (phase.failed message) } := by
  obtain ⟨request, awaited, serves⟩ := sound.request found
  have quiet (family user : String) (holds : (phase.failed message).holds = some (family, user)) :
      system.Holds family user ∨ Fresh service system.drawn system.drawn family := by
    rw [failed_holds] at holds
    cases holds
  have goes (database : Database) (request' : Request) (awaited' : asked[id]? = some request')
      (grown : Grown system.database database) : (phase.failed message).Serves service database request' := by
    obtain rfl := Option.some.inj (awaited.symm.trans awaited')
    exact (failed_serves serves message).grow grown
  cases effective with
  | false =>
    have grown : Grown system.database system.database := .refl _
    exact sound.turned sound.accounts grown
      (sound.families.turned (fun family user keeps => .inl keeps) quiet le_rfl)
      fun request' awaited' => goes _ request' awaited' grown
  | true =>
    have grown := operate_grown system.database phase
    exact sound.turned (operate_accounts sound.accounts serves) grown
      (sound.families.turned (fun family user => .of_operate found) quiet le_rfl)
      fun request' awaited' => goes _ request' awaited' grown

theorem step_grown (service : AuthService) (system : System) (input : Input) :
    Grown system.database (service.step system input).2.database := by
  cases input with
  | call request now => exact .refl _
  | answer id now =>
    simp only [AuthService.step]
    split
    · exact .refl _
    · exact operate_grown ..
  | reject id message effective =>
    simp only [AuthService.step]
    split
    · exact .refl _
    · exact .refl _
    · cases effective
      · exact .refl _
      · exact operate_grown ..

theorem final_users (service : AuthService) (newer inputs : List Input) :
    (final service inputs).database.users <+: (final service (newer ++ inputs)).database.users := by
  induction newer with
  | nil => exact List.prefix_rfl
  | cons input newer ih => exact ih.trans (step_grown service _ input).users

theorem sound (service : AuthService) (inputs : List Input) :
    Sound service (requests inputs) (final service inputs) := by
  induction inputs with
  | nil =>
    have nothing (family user : String) : ¬ System.initial.Holds family user := by
      rintro (⟨row, member, _⟩ | ⟨phase, member, _⟩) <;> cases member
    exact {
      accounts := ⟨List.nodup_nil, List.nodup_nil, List.forall_mem_nil _⟩
      families := ⟨fun family user holds => (nothing family user holds).elim,
        fun family user _ holds => (nothing family user holds).elim⟩
      placed := rfl
      serves := fun _ _ _ found => nomatch found }
  | cons input earlier ih =>
    cases input with
    | call request now => exact ih.called request now
    | answer id now =>
      have taken : final service (.answer id now :: earlier) =
        (service.step (final service earlier) (.answer id now)).2 := rfl
      rw [taken]
      simp only [AuthService.step]
      cases found : (final service earlier).calls[id]? with
      | none => exact ih
      | some phase => exact ih.answered now found
    | reject id message effective =>
      have taken : final service (.reject id message effective :: earlier) =
        (service.step (final service earlier) (.reject id message effective)).2 := rfl
      rw [taken]
      simp only [AuthService.step]
      split
      · exact ih
      · exact ih
      · next phase _ found => exact ih.rejected message effective found

end Run

/-- However the calls overlap, an account keeps its id and its email to itself, a family of tokens belongs
to one user, and each session goes to the user that its request stands for. -/
theorem sessions_owned (service : AuthService) (inputs : List Input) : SessionsOwned service inputs := by
  have sound := sound service inputs
  constructor
  case ids => exact sound.accounts.ids
  case emails => exact sound.accounts.emails
  case lasting => exact fun newer => final_users service newer inputs
  case owned => exact sound.accounts.owned
  case families =>
    intro row member row' member' same
    exact sound.families.single row.familyId _ _ (.inl ⟨row, member, rfl, rfl⟩)
      (.inl ⟨row', member', same.symm, rfl⟩)
  case answered =>
    intro id request reply awaited found
    exact sound.serves id _ request found awaited

end Delego.Gateway
