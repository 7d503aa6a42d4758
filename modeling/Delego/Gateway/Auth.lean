import Delego.Gateway.Tokens

set_option autoImplicit false

namespace Delego.Gateway

open Shared Shared.Text

structure UserRow where
  id : String
  email : String
  passwordHash : Option String
  displayName : Option String
  stellarAddress : Option String
  deriving DecidableEq

structure RefreshTokenRow where
  id : String
  userId : String
  tokenHash : String
  familyId : String
  expiresAt : Nat
  revokedAt : Option Nat
  deriving DecidableEq

structure Database where
  users : List UserRow
  tokens : List RefreshTokenRow

structure TokenPair where
  accessToken : String
  refreshToken : String
  expiresIn : Nat
  deriving DecidableEq

inductive Request where
  | registerUser (email password : String) (displayName : Option String)
  | loginUser (email password : String)
  | logoutUser (refreshToken : Option String)
  | refreshAccessToken (rawRefreshToken : String)
  | revokeTokenFamily (familyId : String)

inductive Reply where
  | registered (user : UserRow) (tokens : TokenPair)
  | loggedIn (user : UserRow) (tokens : TokenPair)
  | refreshed (tokens : TokenPair)
  | done

inductive Purpose where
  | register (user : UserRow)
  | login (user : UserRow)
  | refresh (tokenId : String)

-- Who revokes a family: one that logs out, one that has detected a reuse, or any other.
inductive Revoker where
  | logout
  | reuse
  | other

inductive Phase where
  | findRegistered (email password : String) (displayName : Option String)
  | createUser (user : UserRow)
  | findLogin (email password : String)
  | findToken (decoded : RefreshTokenPayload)
  | revokeToken (record : RefreshTokenRow) (revokedAt : Nat)
  | revokeFamily (familyId : String) (revokedAt : Nat) (revoker : Revoker)
  | findUser (record : RefreshTokenRow)
  | createToken (purpose : Purpose) (accessToken secret : String) (row : RefreshTokenRow)
  | returned (result : Except String Reply)

-- The numbers up to `drawn` have been drawn by `randomUUID`.
structure System where
  database : Database
  calls : List Phase
  drawn : Nat

inductive Input where
  | call (request : Request) (now : Nat)
  | answer (id now : Nat)
  | reject (id : Nat) (message : String) (effective : Bool)

inductive Effect where
  | redeemed (tokenId familyId : String)
  | familyRevoked (familyId : String)
  deriving DecidableEq

-- The unique columns.
def UserRow.clashes (user other : UserRow) : Bool := other.id = user.id || other.email = user.email

def RefreshTokenRow.clashes (row other : RefreshTokenRow) : Bool :=
  other.id = row.id || other.tokenHash = row.tokenHash

def revoke (chosen : RefreshTokenRow → Bool) (revokedAt : Nat) (tokens : List RefreshTokenRow) :
    List RefreshTokenRow :=
  tokens.map fun row => if chosen row then { row with revokedAt := some revokedAt } else row

def revokesToken (tokenId : String) (row : RefreshTokenRow) : Bool :=
  row.id = tokenId && row.revokedAt.isNone

/-- The operations of the database. A row whose unique columns are taken is not created. -/
def Database.operate (database : Database) : Phase → Database
  | .createUser user =>
    if database.users.any (UserRow.clashes user) then database
    else { database with users := database.users ++ [user] }
  | .revokeToken record revokedAt =>
    { database with tokens := revoke (revokesToken record.id) revokedAt database.tokens }
  | .revokeFamily familyId revokedAt _ =>
    { database with tokens := revoke (fun row => row.familyId = familyId) revokedAt database.tokens }
  | .createToken _ _ _ row =>
    if database.tokens.any (RefreshTokenRow.clashes row) then database
    else { database with tokens := database.tokens ++ [row] }
  | _ => database

def Revoker.result : Revoker → Except String Reply
  | .logout | .other => .ok .done
  | .reuse => .error "Token reuse detected"

def Purpose.reply (tokens : TokenPair) : Purpose → Reply
  | .register user => .registered user tokens
  | .login user => .loggedIn user tokens
  | .refresh _ => .refreshed tokens

-- A failure to log out is ignored.
def Phase.failed (message : String) : Phase → Phase
  | .revokeFamily _ _ .logout => .returned (.ok .done)
  | _ => .returned (.error message)

namespace AuthService

variable (service : AuthService)

def receive (request : Request) (now : Nat) : Phase :=
  match request with
  | .registerUser email password displayName =>
    if email = "" ∨ password = "" then .returned (.error "Email and password are required")
    else .findRegistered email password displayName
  | .loginUser email password =>
    if email = "" ∨ password = "" then .returned (.error "Email and password are required")
    else .findLogin email password
  | .logoutUser refreshToken =>
    match truthy refreshToken with
    | none => .returned (.ok .done)
    | some refreshToken =>
      match service.verifyRefreshToken refreshToken now with
      | .ok decoded => .revokeFamily decoded.familyId now .logout
      | .error _ => .returned (.ok .done)
  | .refreshAccessToken rawRefreshToken =>
    match service.verifyRefreshToken rawRefreshToken now with
    | .ok decoded => .findToken decoded
    | .error message => .returned (.error message)
  | .revokeTokenFamily familyId => .revokeFamily familyId now .other

def generateTokens (purpose : Purpose) (userId email : String) (familyId : Option String)
    (now drawn : Nat) : Phase × Nat :=
  let accessToken := service.generateAccessToken userId email now
  let tokenId := service.randomUUID drawn
  let (family, drawn) := match familyId with
    | some familyId => (familyId, drawn + 1)
    | none => (service.randomUUID (drawn + 1), drawn + 2)
  let secret := service.randomUUID drawn
  let row : RefreshTokenRow :=
    { id := tokenId
      userId
      tokenHash := service.bcrypt.hash drawn secret
      familyId := family
      expiresAt := now + 7 * 24 * 60 * 60 * 1000
      revokedAt := none }
  (.createToken purpose accessToken secret row, drawn + 1)

def tokenPair (accessToken secret : String) (row : RefreshTokenRow) (now : Nat) : TokenPair where
  accessToken
  refreshToken := service.jwt.sign
    (service.refreshSigning ⟨row.id, row.familyId, row.userId, secret⟩ now)
  expiresIn := 15 * 60

/-- How a call goes on once its operation has been answered, with what it draws and what it has done.
The database is the one that was there before. -/
def proceed (database : Database) (now drawn : Nat) : Phase → (Phase × Nat) × Option Effect
  | .findRegistered email password displayName =>
    if database.users.any fun user => user.email = email then
      ((.returned (.error "User with this email already exists"), drawn), none)
    else
      ((.createUser ⟨service.randomUUID drawn, email, some (service.bcrypt.hash drawn password),
        displayName, none⟩, drawn + 1), none)
  | .createUser user =>
    if database.users.any (UserRow.clashes user) then
      ((.returned (.error "Validation error"), drawn), none)
    else (service.generateTokens (.register user) user.id user.email none now drawn, none)
  | .findLogin email password =>
    match database.users.find? fun user => user.email = email with
    | none => ((.returned (.error "Invalid email or password"), drawn), none)
    | some user =>
      match truthy user.passwordHash with
      | none => ((.returned (.error "Invalid email or password"), drawn), none)
      | some passwordHash =>
        if service.bcrypt.compare password passwordHash then
          (service.generateTokens (.login user) user.id user.email none now drawn, none)
        else ((.returned (.error "Invalid email or password"), drawn), none)
  | .findToken decoded =>
    match database.tokens.find? fun row => row.id = decoded.tokenId with
    | none => ((.returned (.error "Invalid refresh token"), drawn), none)
    | some record =>
      if ¬ service.bcrypt.compare decoded.secret record.tokenHash then
        ((.returned (.error "Invalid refresh token"), drawn), none)
      else if record.expiresAt < now then ((.returned (.error "Refresh token expired"), drawn), none)
      else if record.revokedAt.isSome then ((.revokeFamily record.familyId now .reuse, drawn), none)
      else ((.revokeToken record now, drawn), none)
  | .revokeToken record _ =>
    if database.tokens.any (revokesToken record.id) then ((.findUser record, drawn), none)
    else ((.revokeFamily record.familyId now .reuse, drawn), none)
  | .revokeFamily familyId _ revoker =>
    ((.returned revoker.result, drawn), some (.familyRevoked familyId))
  | .findUser record =>
    let email := ((database.users.find? fun user => user.id = record.userId).map UserRow.email).getD ""
    (service.generateTokens (.refresh record.id) record.userId email record.familyId now drawn, none)
  | .createToken purpose accessToken secret row =>
    if database.tokens.any (RefreshTokenRow.clashes row) then
      ((.returned (.error "Validation error"), drawn), none)
    else
      ((.returned (.ok (purpose.reply (service.tokenPair accessToken secret row now))), drawn),
        match purpose with
        | .refresh tokenId => some (.redeemed tokenId row.familyId)
        | .register _ | .login _ => none)
  | .returned result => ((.returned result, drawn), none)

def step (system : System) : Input → Option Effect × System
  | .call request now =>
    (none, { system with calls := system.calls ++ [service.receive request now] })
  | .answer id now =>
    match system.calls[id]? with
    | none => (none, system)
    | some phase =>
      let ((phase', drawn), effect) := service.proceed system.database now system.drawn phase
      (effect, ⟨system.database.operate phase, system.calls.set id phase', drawn⟩)
  -- An operation that fails, or one whose answer is lost.
  | .reject id message effective =>
    match system.calls[id]? with
    | none | some (.returned _) => (none, system)
    | some phase =>
      (none,
        { system with
          database := if effective then system.database.operate phase else system.database
          calls := system.calls.set id (phase.failed message) })

end AuthService

def System.initial : System := ⟨⟨[], []⟩, [], 0⟩

end Delego.Gateway
