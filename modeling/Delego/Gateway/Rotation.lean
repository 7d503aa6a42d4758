import Delego.Gateway.Auth

set_option autoImplicit false

namespace Delego.Gateway

variable {service : AuthService} {system : System} {tokens : List RefreshTokenRow} {phase : Phase}

def Phase.pending : Phase → Option String
  | .findUser record => some record.familyId
  | .createToken _ _ _ row => some row.familyId
  | _ => none

def Phase.redeeming : Phase → Option String
  | .findUser record => some record.id
  | .createToken (.refresh tokenId) _ _ _ => some tokenId
  | _ => none

def Phase.Matched (tokens : List RefreshTokenRow) : Phase → Prop
  | .revokeToken record _ => ∃ row ∈ tokens, row.id = record.id ∧ row.familyId = record.familyId
  | .findUser record => ∃ row ∈ tokens, row.id = record.id
  | .createToken (.refresh tokenId) _ _ _ => ∃ row ∈ tokens, row.id = tokenId
  | _ => True

def Effect.redeems (tokenId : String) : Option Effect → Bool
  | some (.redeemed used _) => used = tokenId
  | _ => false

/-- What a step of one call can do to the tokens, the call and the numbers that are drawn. -/
inductive Turn (service : AuthService) (tokens : List RefreshTokenRow) (drawn : Nat) (phase : Phase) :
    List RefreshTokenRow → Phase → Nat → Option Effect → Prop
  | idle {phase' : Phase} {drawn' : Nat} (chosen : RefreshTokenRow → Bool) (revokedAt : Nat)
      (idle : phase'.pending = none) (lost : phase'.redeeming = none)
      (matched : phase'.Matched (revoke chosen revokedAt tokens)) (later : drawn ≤ drawn') :
      Turn service tokens drawn phase (revoke chosen revokedAt tokens) phase' drawn' none
  | revoked (familyId : String) (revokedAt : Nat) (result : Except String Reply)
      (revoking : ∃ revoker, phase = .revokeFamily familyId revokedAt revoker) :
      Turn service tokens drawn phase (revoke (fun row => row.familyId = familyId) revokedAt tokens)
        (.returned result) drawn (some (.familyRevoked familyId))
  | spent (record : RefreshTokenRow) (revokedAt : Nat) (revoking : phase = .revokeToken record revokedAt)
      (live : tokens.any (revokesToken record.id) = true) :
      Turn service tokens drawn phase (revoke (revokesToken record.id) revokedAt tokens)
        (.findUser record) drawn none
  | passed (record row : RefreshTokenRow) (accessToken secret : String) (drawn' : Nat)
      (finding : phase = .findUser record) (family : row.familyId = record.familyId)
      (later : drawn ≤ drawn') :
      Turn service tokens drawn phase tokens (.createToken (.refresh record.id) accessToken secret row)
        drawn' none
  | opened (purpose : Purpose) (row : RefreshTokenRow) (accessToken secret : String) (drawn' : Nat)
      (new : ∀ tokenId, purpose ≠ .refresh tokenId)
      (fresh : ∃ number, drawn ≤ number ∧ number < drawn' ∧ row.familyId = service.randomUUID number) :
      Turn service tokens drawn phase tokens (.createToken purpose accessToken secret row) drawn' none
  | created (purpose : Purpose) (row : RefreshTokenRow) (accessToken secret : String)
      (result : Except String Reply) (effect : Option Effect)
      (creating : phase = .createToken purpose accessToken secret row)
      (free : ∀ other ∈ tokens, other.id ≠ row.id)
      (told : effect = none ∨
        ∃ tokenId, purpose = .refresh tokenId ∧ effect = some (.redeemed tokenId row.familyId)) :
      Turn service tokens drawn phase (tokens ++ [row]) (.returned result) drawn effect

@[simp] theorem revoke_none (revokedAt : Nat) : revoke (fun _ => false) revokedAt tokens = tokens := by
  simp [revoke]

theorem mem_revoke {chosen : RefreshTokenRow → Bool} {revokedAt : Nat} {row : RefreshTokenRow}
    (member : row ∈ tokens) : ∃ row' ∈ revoke chosen revokedAt tokens, row'.id = row.id ∧
      row'.familyId = row.familyId := by
  refine ⟨_, List.mem_map_of_mem member, ?_⟩
  split
  · exact ⟨rfl, rfl⟩
  · exact ⟨rfl, rfl⟩

theorem generateTokens_turn (purpose : Purpose) (userId email : String) (now drawn : Nat)
    (new : ∀ tokenId, purpose ≠ .refresh tokenId) :
    Turn service tokens drawn phase tokens
      (service.generateTokens purpose userId email none now drawn).1
      (service.generateTokens purpose userId email none now drawn).2 none := by
  refine .opened purpose _ _ _ _ new ⟨drawn + 1, ?_, ?_, rfl⟩
  · omega
  · simp only [AuthService.generateTokens]
    omega

theorem Turn.rest {drawn drawn' : Nat} {phase' : Phase} (idle : phase'.pending = none)
    (lost : phase'.redeeming = none) (matched : phase'.Matched tokens) (later : drawn ≤ drawn') :
    Turn service tokens drawn phase tokens phase' drawn' none := by
  have turn : Turn service tokens drawn phase (revoke (fun _ => false) 0 tokens) phase' drawn' none :=
    .idle _ 0 idle lost (by rwa [revoke_none]) later
  rwa [revoke_none] at turn

theorem free_of_clashes {row : RefreshTokenRow} (free : ¬ tokens.any (RefreshTokenRow.clashes row) = true) :
    ∀ other ∈ tokens, other.id ≠ row.id := by
  intro other member same
  refine free (List.any_eq_true.mpr ⟨other, member, ?_⟩)
  simp [RefreshTokenRow.clashes, same]

theorem proceed_turn (database : Database) (now drawn : Nat) (matched : phase.Matched database.tokens) :
    Turn service database.tokens drawn phase (database.operate phase).tokens
      (service.proceed database now drawn phase).1.1 (service.proceed database now drawn phase).1.2
      (service.proceed database now drawn phase).2 := by
  cases phase with
  | findRegistered email password displayName =>
    simp only [AuthService.proceed, Database.operate]
    split
    · exact .rest rfl rfl trivial le_rfl
    · exact .rest rfl rfl trivial (Nat.le_succ _)
  | createUser user =>
    simp only [AuthService.proceed, Database.operate]
    split
    · exact .rest rfl rfl trivial le_rfl
    · exact generateTokens_turn _ _ _ _ _ nofun
  | findLogin email password =>
    simp only [AuthService.proceed, Database.operate]
    split
    · exact .rest rfl rfl trivial le_rfl
    · split
      · exact .rest rfl rfl trivial le_rfl
      · split
        · exact generateTokens_turn _ _ _ _ _ nofun
        · exact .rest rfl rfl trivial le_rfl
  | findToken decoded =>
    simp only [AuthService.proceed, Database.operate]
    split
    · exact .rest rfl rfl trivial le_rfl
    · next record found =>
      have read : (Phase.revokeToken record now).Matched database.tokens :=
        ⟨record, List.mem_of_find?_eq_some found, rfl, rfl⟩
      split
      · exact .rest rfl rfl trivial le_rfl
      · split
        · exact .rest rfl rfl trivial le_rfl
        · split
          · exact .rest rfl rfl trivial le_rfl
          · exact .rest rfl rfl read le_rfl
  | revokeToken record revokedAt =>
    simp only [AuthService.proceed, Database.operate]
    split
    · next live => exact .spent record revokedAt rfl live
    · exact .idle _ _ rfl rfl trivial le_rfl
  | revokeFamily familyId revokedAt revoker =>
    exact .revoked familyId revokedAt _ ⟨revoker, rfl⟩
  | findUser record =>
    refine .passed record _ _ _ _ rfl rfl ?_
    simp only [AuthService.proceed, AuthService.generateTokens]
    omega
  | createToken purpose accessToken secret row =>
    simp only [AuthService.proceed, Database.operate]
    split
    · exact .rest rfl rfl trivial le_rfl
    · next free =>
      refine .created purpose row accessToken secret _ _ rfl (free_of_clashes free) ?_
      cases purpose with
      | register | login => exact .inl rfl
      | refresh tokenId => exact .inr ⟨tokenId, rfl, rfl⟩
  | returned result => exact .rest rfl rfl trivial le_rfl

theorem Phase.failed_returned (message : String) (phase : Phase) :
    ∃ result, phase.failed message = .returned result := by
  cases phase with
  | revokeFamily familyId revokedAt revoker => cases revoker <;> exact ⟨_, rfl⟩
  | findRegistered | createUser | findLogin | findToken | revokeToken | findUser | createToken
  | returned => exact ⟨_, rfl⟩

theorem reject_turn (database : Database) (drawn : Nat) (message : String) (effective : Bool) :
    Turn service database.tokens drawn phase
      (if effective then database.operate phase else database).tokens (phase.failed message) drawn none := by
  obtain ⟨result, failed⟩ := phase.failed_returned message
  rw [failed]
  cases effective with
  | false => exact .rest rfl rfl trivial le_rfl
  | true =>
    rw [if_pos rfl]
    cases phase with
    | createUser user =>
      simp only [Database.operate]
      split
      · exact .rest rfl rfl trivial le_rfl
      · exact .rest rfl rfl trivial le_rfl
    | revokeToken record revokedAt => exact .idle _ _ rfl rfl trivial le_rfl
    | revokeFamily familyId revokedAt revoker => exact .idle _ _ rfl rfl trivial le_rfl
    | createToken purpose accessToken secret row =>
      simp only [Database.operate]
      split
      · exact .rest rfl rfl trivial le_rfl
      · next free =>
        exact .created purpose row accessToken secret _ _ rfl (free_of_clashes free) (.inl rfl)
    | findRegistered | findLogin | findToken | findUser | returned =>
      exact .rest rfl rfl trivial le_rfl

theorem receive_rest (service : AuthService) (tokens : List RefreshTokenRow) (request : Request)
    (now : Nat) : (service.receive request now).pending = none ∧
    (service.receive request now).redeeming = none ∧ (service.receive request now).Matched tokens := by
  cases request with
  | registerUser email password displayName =>
    simp only [AuthService.receive]
    split
    · exact ⟨rfl, rfl, trivial⟩
    · exact ⟨rfl, rfl, trivial⟩
  | loginUser email password =>
    simp only [AuthService.receive]
    split
    · exact ⟨rfl, rfl, trivial⟩
    · exact ⟨rfl, rfl, trivial⟩
  | logoutUser refreshToken =>
    simp only [AuthService.receive]
    split
    · exact ⟨rfl, rfl, trivial⟩
    · split
      · exact ⟨rfl, rfl, trivial⟩
      · exact ⟨rfl, rfl, trivial⟩
  | refreshAccessToken rawRefreshToken =>
    simp only [AuthService.receive]
    split
    · exact ⟨rfl, rfl, trivial⟩
    · exact ⟨rfl, rfl, trivial⟩
  | revokeTokenFamily familyId => exact ⟨rfl, rfl, trivial⟩

inductive Move (service : AuthService) (system : System) : Option Effect → System → Prop
  | stays : Move service system none system
  | called (phase : Phase) (idle : phase.pending = none) (lost : phase.redeeming = none)
      (matched : phase.Matched system.database.tokens) :
      Move service system none { system with calls := system.calls ++ [phase] }
  | turned (id : Nat) (phase phase' : Phase) (database : Database) (drawn : Nat) (effect : Option Effect)
      (found : system.calls[id]? = some phase)
      (turn : Turn service system.database.tokens system.drawn phase database.tokens phase' drawn effect) :
      Move service system effect ⟨database, system.calls.set id phase', drawn⟩

theorem step_move (matched : ∀ phase ∈ system.calls, phase.Matched system.database.tokens)
    (input : Input) : Move service system (service.step system input).1 (service.step system input).2 := by
  cases input with
  | call request now =>
    obtain ⟨idle, lost, matched⟩ := receive_rest service system.database.tokens request now
    exact .called _ idle lost matched
  | answer id now =>
    simp only [AuthService.step]
    cases found : system.calls[id]? with
    | none => exact .stays
    | some phase =>
      exact .turned id phase _ _ _ _ found
        (proceed_turn _ now _ (matched phase (List.mem_of_getElem? found)))
  | reject id message effective =>
    simp only [AuthService.step]
    cases found : system.calls[id]? with
    | none => exact .stays
    | some phase =>
      cases phase with
      | returned result => exact .stays
      | findRegistered | createUser | findLogin | findToken | revokeToken | revokeFamily | findUser
      | createToken =>
        exact .turned id _ _ _ _ _ found (reject_turn _ _ message effective)

end Delego.Gateway
