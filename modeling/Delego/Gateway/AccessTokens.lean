import Delego.Gateway.Tokens

set_option autoImplicit false

namespace Delego.Gateway

/-- A token that the service has issued, with the configuration of that moment. -/
inductive Mint where
  | access (config : JwtValidationConfig) (userId email : String) (now : Nat)
  | refresh (config : JwtValidationConfig) (payload : RefreshTokenPayload) (now : Nat)

namespace Mint

variable (service : AuthService)

def signing : Mint → Signing
  | .access config userId email now =>
    { service with config }.accessSigning userId email ["user"] now
  | .refresh config payload now => { service with config }.refreshSigning payload now

def token (mint : Mint) : String := service.jwt.sign (mint.signing service)

def isRefresh : Mint → Bool
  | .access .. => false
  | .refresh .. => true

def config : Mint → JwtValidationConfig
  | .access config .. | .refresh config .. => config

end Mint

-- What the configuration and the clock demand of a token, apart from its signature.
def Signing.current (signing : Signing) (config : JwtValidationConfig) (now : Nat) : Prop :=
  signing.issuer = config.issuer ∧ signing.audience = config.audience ∧
    now / 1000 < signing.expiry + config.clockToleranceSeconds

instance (signing : Signing) (config : JwtValidationConfig) (now : Nat) :
    Decidable (signing.current config now) := inferInstanceAs (Decidable (_ ∧ _ ∧ _))

/-- What is relied on of the library when the issued tokens are the only ones signed with the secret:
a token carries its claims, and exactly the unexpired ones signed for the given issuer and audience
are accepted. -/
structure Jwt.Lawful (service : AuthService) (issued : List Mint) : Prop where
  carries : ∀ mint ∈ issued, ∀ other ∈ issued, mint.token service = other.token service →
    (mint.signing service).payload = (other.signing service).payload
  verifies : ∀ token config now payload,
    service.jwt.verify token service.jwtSecret config now = .ok payload ↔
      ∃ mint ∈ issued, mint.token service = token ∧ (mint.signing service).current config now ∧
        (mint.signing service).payload = payload

variable {service : AuthService} {issued : List Mint}

def AccessIssued (service : AuthService) (issued : List Mint) (token : String) : Prop :=
  ∃ config userId email now, Mint.access config userId email now ∈ issued ∧
    token = { service with config }.generateAccessToken userId email now

structure AccessOnly (service : AuthService) (issued : List Mint) (token : String) (now : Nat) : Prop where
  verified : ∀ claims, service.verifyToken token now = .ok claims → AccessIssued service issued token
  extracted : ∀ authorization, bearer authorization = some token →
    (extractAuth service authorization now).1.userId ≠ none → AccessIssued service issued token

def RefreshCurrent (service : AuthService) (issued : List Mint) (token : String) (now : Nat) : Prop :=
  ∃ mint ∈ issued, mint.isRefresh = true ∧ mint.token service = token ∧
    (mint.signing service).current service.config now

theorem verifyToken_ok {token : String} {now : Nat} {claims : AccessClaims}
    (accepted : service.verifyToken token now = .ok claims) :
    ∃ payload, service.jwt.verify token service.jwtSecret service.config now = .ok payload := by
  simp only [AuthService.verifyToken] at accepted
  cases verified : service.jwt.verify token service.jwtSecret service.config now with
  | ok payload => exact ⟨payload, rfl⟩
  | error message =>
    rw [verified] at accepted
    cases accepted

theorem verifyToken_of_mint (lawful : Jwt.Lawful service issued) {mint : Mint} {token : String} {now : Nat}
    (member : mint ∈ issued) (same : mint.token service = token)
    (current : (mint.signing service).current service.config now) :
    ∃ claims, service.verifyToken token now = .ok claims := by
  have verified := (lawful.verifies token service.config now _).mpr ⟨mint, member, same, current, rfl⟩
  simp only [AuthService.verifyToken, verified]
  cases mint with
  | access | refresh => exact ⟨_, rfl⟩

-- The middleware takes its user from `verifyToken`.
theorem extractAuth_userId {authorization : Option String} {token : String} {now : Nat}
    (presented : bearer authorization = some token)
    (accepted : (extractAuth service authorization now).1.userId ≠ none) :
    ∃ claims, service.verifyToken token now = .ok claims := by
  simp only [extractAuth, presented] at accepted
  cases verified : service.verifyToken token now with
  | ok claims => exact ⟨claims, rfl⟩
  | error message => simp [verified] at accepted

theorem refresh_not_access (lawful : Jwt.Lawful service issued) {mint : Mint} {token : String}
    (member : mint ∈ issued) (refresh : mint.isRefresh = true) (same : mint.token service = token) :
    ¬ AccessIssued service issued token := by
  rintro ⟨config, userId, email, now, generated, rfl⟩
  cases mint with
  | access => cases refresh
  | refresh other payload signedAt =>
    have claims := lawful.carries _ member _ generated same
    cases congrArg Payload.tokenId claims

/-- A token gets past the access checks as an access token exactly when it is not a refresh token that
the issuer, the audience and the expiry let through. -/
theorem access_only_iff (service : AuthService) (issued : List Mint) (lawful : Jwt.Lawful service issued)
    (token : String) (now : Nat) :
    AccessOnly service issued token now ↔ ¬ RefreshCurrent service issued token now := by
  constructor
  · rintro only ⟨mint, member, refresh, same, current⟩
    obtain ⟨claims, accepted⟩ := verifyToken_of_mint lawful member same current
    exact refresh_not_access lawful member refresh same (only.verified claims accepted)
  · intro none
    have verified (claims : AccessClaims) (accepted : service.verifyToken token now = .ok claims) :
        AccessIssued service issued token := by
      obtain ⟨payload, verified⟩ := verifyToken_ok accepted
      obtain ⟨mint, member, same, current, _⟩ := (lawful.verifies _ _ _ _).mp verified
      cases mint with
      | access config userId email signedAt =>
        exact ⟨config, userId, email, signedAt, member, same.symm⟩
      | refresh config payload signedAt => exact absurd ⟨_, member, rfl, same, current⟩ none
    refine ⟨verified, ?_⟩
    intro authorization presented accepted
    obtain ⟨claims, accepted⟩ := extractAuth_userId presented accepted
    exact verified claims accepted

-- Ids of growing length, and a library that knows the tokens that have been signed by name.
def sampleUUID : ℕ ↪ String where
  toFun number := String.ofList (List.replicate (number + 1) 'a')
  inj' := by
    intro number other same
    have lengths := congrArg String.length same
    simpa using lengths

def sampleLibrary (signed : List Signing) : Jwt where
  sign signing := signing.payload.tokenId.getD "access"
  verify token secret config now :=
    match signed.find? fun signing => signing.payload.tokenId.getD "access" = token with
    | none => .error "jwt malformed"
    | some signing =>
      if signing.secret = secret ∧ signing.current config now then .ok signing.payload
      else .error "jwt expired"

def sampleIssued (config : JwtValidationConfig) : List Mint :=
  [.access config "a" "ada@example.org" 0, .refresh config ⟨"aa", "aaa", "a", "aaaa"⟩ 0]

def sampleService : AuthService :=
  let service (jwt : Jwt) : AuthService :=
    { jwtSecret := "secret"
      config := getJwtValidationConfig fun _ => none
      jwt
      bcrypt := ⟨fun _ text => text, fun text hash => text = hash⟩
      randomUUID := sampleUUID }
  let unsigned := service (sampleLibrary [])
  service (sampleLibrary ((sampleIssued unsigned.config).map fun mint => mint.signing unsigned))

theorem guarded_ok {condition : Prop} [Decidable condition] {payload accepted : Payload}
    {message : String} :
    (if condition then Except.ok payload else .error message) = .ok accepted ↔
      condition ∧ payload = accepted := by
  split
  · next holds => simp [holds]
  · next fails => simp [fails]

theorem sampleLibrary_lawful : Jwt.Lawful sampleService (sampleIssued sampleService.config) := by
  constructor
  · decide +kernel
  · intro token config now payload
    simp only [sampleService, sampleLibrary, sampleIssued, Mint.token, Mint.signing, List.mem_cons,
      List.not_mem_nil, or_false, exists_eq_or_imp, exists_eq_left, List.map_cons, List.map_nil,
      AuthService.accessSigning, AuthService.refreshSigning, List.find?_cons, Option.getD_none,
      Option.getD_some]
    by_cases access : "access" = token
    · subst access
      simp [guarded_ok]
    · by_cases refresh : "aa" = token
      · subst refresh
        simp [guarded_ok]
      · simp [access, refresh]

theorem access_only_iff_sample :
    AccessOnly sampleService (sampleIssued sampleService.config) "access" 1000 := by
  refine (access_only_iff sampleService _ sampleLibrary_lawful "access" 1000).mpr ?_
  rintro ⟨mint, member, refresh, same, _⟩
  have none : ∀ mint ∈ sampleIssued sampleService.config, mint.isRefresh = true →
      mint.token sampleService ≠ "access" := by decide +kernel
  exact none mint member refresh same

/-- A refresh token is accepted as an access token. -/
theorem refresh_token_accepted :
    ¬ AccessOnly sampleService (sampleIssued sampleService.config) "aa" 1000 := by
  intro only
  have accepted : sampleService.verifyToken "aa" 1000 = .ok ⟨"a", none, none⟩ := by decide +kernel
  have refresh : (Mint.refresh sampleService.config ⟨"aa", "aaa", "a", "aaaa"⟩ 0) ∈
      sampleIssued sampleService.config := .tail _ (.head _)
  exact refresh_not_access sampleLibrary_lawful refresh rfl rfl
    (only.verified _ accepted)

end Delego.Gateway
