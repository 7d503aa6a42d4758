import Delego.Shared.Number
import Mathlib.Logic.Embedding.Basic

set_option autoImplicit false

namespace Delego.Gateway

open Shared

structure JwtValidationConfig where
  issuer : String
  audience : String
  clockToleranceSeconds : Nat
  deriving DecidableEq

def defaultClockToleranceSeconds : Nat := 5

def maxClockToleranceSeconds : Nat := 300

def parseToleranceSeconds (raw : Option String) (fallback : Nat) : Nat :=
  match Text.truthy raw with
  | none => fallback
  | some raw =>
    match Number.ofText raw with
    | .finite parsed => if parsed < 0 then fallback else min ⌊parsed⌋.toNat maxClockToleranceSeconds
    | .nan | .infinite _ => fallback

def getJwtValidationConfig (env : String → Option String) : JwtValidationConfig where
  issuer := (env "JWT_ISSUER").getD "delego-gateway"
  audience := (env "JWT_AUDIENCE").getD "delego-clients"
  clockToleranceSeconds :=
    parseToleranceSeconds (env "JWT_CLOCK_TOLERANCE_SECONDS") defaultClockToleranceSeconds

/-- The claims of a token: an access token has the first three, a refresh token the user's id and the
last three. -/
structure Payload where
  userId : Option String
  email : Option String
  roles : Option (List String)
  tokenId : Option String
  familyId : Option String
  secret : Option String
  deriving DecidableEq

-- One call of `jwt.sign`; `expiresIn` is in seconds.
structure Signing where
  payload : Payload
  secret : String
  expiresIn : Nat
  issuer : String
  audience : String
  signedAt : Nat
  deriving DecidableEq

def Signing.expiry (signing : Signing) : Nat := signing.signedAt / 1000 + signing.expiresIn

structure Jwt where
  sign : Signing → String
  verify : (token secret : String) → JwtValidationConfig → (now : Nat) → Except String Payload

structure Bcrypt where
  hash : (salt : Nat) → String → String
  compare : String → String → Bool

/-- What the functions of the service use: its secret, its environment and its libraries. The numbers
of `randomUUID` are those of the calls. -/
structure AuthService where
  jwtSecret : String
  config : JwtValidationConfig
  jwt : Jwt
  bcrypt : Bcrypt
  randomUUID : ℕ ↪ String

def accessTokenExpiresIn : Nat := 15 * 60

def refreshTokenExpiresIn : Nat := 7 * 24 * 60 * 60

structure RefreshTokenPayload where
  tokenId : String
  familyId : String
  userId : String
  secret : String
  deriving DecidableEq

structure AccessClaims where
  userId : String
  email : Option String
  roles : Option (List String)
  deriving DecidableEq

namespace AuthService

variable (service : AuthService)

def accessSigning (userId email : String) (roles : List String) (now : Nat) : Signing where
  payload := ⟨some userId, some email, some roles, none, none, none⟩
  secret := service.jwtSecret
  expiresIn := accessTokenExpiresIn
  issuer := service.config.issuer
  audience := service.config.audience
  signedAt := now

def generateAccessToken (userId email : String) (now : Nat) : String :=
  service.jwt.sign (service.accessSigning userId email ["user"] now)

def refreshSigning (payload : RefreshTokenPayload) (now : Nat) : Signing where
  payload := ⟨some payload.userId, none, none, some payload.tokenId, some payload.familyId,
    some payload.secret⟩
  secret := service.jwtSecret
  expiresIn := refreshTokenExpiresIn
  issuer := service.config.issuer
  audience := service.config.audience
  signedAt := now

def verifyToken (token : String) (now : Nat) : Except String AccessClaims := do
  let decoded ← service.jwt.verify token service.jwtSecret service.config now
  match decoded.userId with
  | some userId => .ok ⟨userId, decoded.email, decoded.roles⟩
  | none => .error "Invalid token structure"

def verifyRefreshToken (token : String) (now : Nat) : Except String RefreshTokenPayload := do
  let decoded ← service.jwt.verify token service.jwtSecret service.config now
  match decoded.tokenId, decoded.familyId, decoded.userId, decoded.secret with
  | some tokenId, some familyId, some userId, some secret => .ok ⟨tokenId, familyId, userId, secret⟩
  | _, _, _, _ => .error "Invalid refresh token structure"

end AuthService

structure AuthContext where
  userId : Option String
  token : Option String
  deriving DecidableEq

structure AuthenticatedUserContext where
  userId : String
  email : String
  roles : List String
  deriving DecidableEq

def bearer (authorization : Option String) : Option String :=
  match authorization with
  | some header =>
    if "Bearer ".toList.isPrefixOf header.toList then some (String.ofList (header.toList.drop 7)) else none
  | none => none

def extractAuth (service : AuthService) (authorization : Option String) (now : Nat) :
    AuthContext × Option AuthenticatedUserContext :=
  match bearer authorization with
  | none => (⟨none, none⟩, none)
  | some token =>
    match service.verifyToken token now with
    | .ok decoded =>
      (⟨decoded.userId, token⟩, some ⟨decoded.userId, decoded.email.getD "", decoded.roles.getD []⟩)
    | .error _ => (⟨none, none⟩, none)

end Delego.Gateway
