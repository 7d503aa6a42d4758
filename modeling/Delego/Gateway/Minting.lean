import Delego.Gateway.Sessions

set_option autoImplicit false

namespace Delego.Gateway

open Shared

/-- What is relied on of the libraries: a token that is accepted carries the claims it was signed with, a
secret matches its hashes, and hashes that agree have one salt. -/
structure AuthService.Lawful (service : AuthService) : Prop where
  carries : ∀ signing config now payload,
    service.jwt.verify (service.jwt.sign signing) service.jwtSecret config now = .ok payload →
      payload = signing.payload
  compares : ∀ salt text, service.bcrypt.compare text (service.bcrypt.hash salt text) = true
  salted : ∀ salt salt' text text',
    service.bcrypt.hash salt text = service.bcrypt.hash salt' text' → salt = salt'

def Reply.tokens? : Reply → Option TokenPair
  | .registered _ tokens | .loggedIn _ tokens | .refreshed tokens => some tokens
  | .done => none

def Phase.creating : Phase → Option (String × RefreshTokenRow)
  | .createToken _ _ secret row => some (secret, row)
  | _ => none

def System.creating (system : System) (place : Nat) : Option (String × RefreshTokenRow) :=
  system.calls[place]?.bind Phase.creating

-- The id and the salt of a row are among the numbers that have been drawn in between.
structure Made (service : AuthService) (drawn drawn' : Nat) (secret : String) (row : RefreshTokenRow) : Prop where
  named : ∃ number, drawn ≤ number ∧ number < drawn' ∧ row.id = service.randomUUID number
  hashed : ∃ salt, drawn ≤ salt ∧ salt < drawn' ∧ row.tokenHash = service.bcrypt.hash salt secret

/-- A refresh token that the service has signed for a row with its secret. -/
def StandsFor (service : AuthService) (refreshToken : String) (row : RefreshTokenRow) : Prop :=
  ∃ secret signedAt salt, row.tokenHash = service.bcrypt.hash salt secret ∧
    refreshToken =
      service.jwt.sign (service.refreshSigning ⟨row.id, row.familyId, row.userId, secret⟩ signedAt)

structure Minted (service : AuthService) (system : System) : Prop where
  stored : ∀ row ∈ system.database.tokens, ∃ secret, Made service 0 system.drawn secret row
  made : ∀ place secret row, system.creating place = some (secret, row) →
    Made service 0 system.drawn secret row ∧ row.revokedAt = none
  free : ∀ place secret row, system.creating place = some (secret, row) →
    ∀ other ∈ system.database.tokens, row.clashes other = false
  apart : ∀ place place' secret secret' row row', system.creating place = some (secret, row) →
    system.creating place' = some (secret', row') → row.clashes row' = true → place = place'
  handed : ∀ phase ∈ system.calls, ∀ reply tokens, phase = .returned (.ok reply) →
    reply.tokens? = some tokens →
      ∃ row ∈ system.database.tokens, StandsFor service tokens.refreshToken row

section Rows

variable {service : AuthService} {system : System} {database : Database} {phase phase' : Phase}
  {drawn drawn' : Nat} {secret secret' : String} {row row' : RefreshTokenRow}

theorem clashes_comm : row.clashes row' = row'.clashes row := by
  simp only [RefreshTokenRow.clashes, eq_comm]

theorem clashes_congr {old : RefreshTokenRow} (id : old.id = row'.id) (hash : old.tokenHash = row'.tokenHash) :
    row.clashes old = row.clashes row' := by
  simp only [RefreshTokenRow.clashes, id, hash]

theorem Made.later (made : Made service 0 drawn secret row) (later : drawn ≤ drawn') :
    Made service 0 drawn' secret row := by
  obtain ⟨⟨number, low, high, named⟩, ⟨salt, low', high', hashed⟩⟩ := made
  exact ⟨⟨number, low, by omega, named⟩, ⟨salt, low', by omega, hashed⟩⟩

theorem Made.all (made : Made service drawn drawn' secret row) : Made service 0 drawn' secret row := by
  obtain ⟨⟨number, _, high, named⟩, ⟨salt, _, high', hashed⟩⟩ := made
  exact ⟨⟨number, Nat.zero_le _, high, named⟩, ⟨salt, Nat.zero_le _, high', hashed⟩⟩

theorem Made.same {old : RefreshTokenRow} (made : Made service 0 drawn secret old) (id : old.id = row.id)
    (hash : old.tokenHash = row.tokenHash) : Made service 0 drawn secret row :=
  ⟨id ▸ made.named, hash ▸ made.hashed⟩

theorem Made.free (lawful : service.Lawful) (before : Made service 0 drawn secret row)
    (after : Made service drawn drawn' secret' row') : row'.clashes row = false := by
  obtain ⟨⟨number, _, high, named⟩, ⟨salt, _, high', hashed⟩⟩ := before
  obtain ⟨⟨number', low, _, named'⟩, ⟨salt', low', _, hashed'⟩⟩ := after
  have ids : row.id ≠ row'.id := by
    intro same
    have equal := service.randomUUID.injective (named.symm.trans (same.trans named'))
    omega
  have hashes : row.tokenHash ≠ row'.tokenHash := by
    intro same
    have equal := lawful.salted _ _ _ _ (hashed.symm.trans (same.trans hashed'))
    omega
  simp [RefreshTokenRow.clashes, ids, hashes]

theorem generateTokens_made {purpose : Purpose} {userId email : String} {familyId : Option String} {now : Nat}
    (creating : (service.generateTokens purpose userId email familyId now drawn).1.creating =
      some (secret, row)) :
    Made service drawn (service.generateTokens purpose userId email familyId now drawn).2 secret row ∧
      row.revokedAt = none := by
  cases familyId with
  | some given =>
    simp only [AuthService.generateTokens, Phase.creating, Option.some.injEq, Prod.mk.injEq] at creating ⊢
    obtain ⟨rfl, rfl⟩ := creating
    exact ⟨⟨⟨drawn, by omega, by omega, rfl⟩, ⟨drawn + 1, by omega, by omega, rfl⟩⟩, rfl⟩
  | none =>
    simp only [AuthService.generateTokens, Phase.creating, Option.some.injEq, Prod.mk.injEq] at creating ⊢
    obtain ⟨rfl, rfl⟩ := creating
    exact ⟨⟨⟨drawn, by omega, by omega, rfl⟩, ⟨drawn + 2, by omega, by omega, rfl⟩⟩, rfl⟩

inductive Onward (service : AuthService) (database : Database) (now drawn : Nat) : Phase → Phase → Nat → Prop
  | refuses (phase : Phase) (message : String) :
    Onward service database now drawn phase (.returned (.error message)) drawn
  | names (email password : String) (displayName : Option String) (user : UserRow) :
    Onward service database now drawn (.findRegistered email password displayName) (.createUser user) (drawn + 1)
  | registers (user : UserRow) : Onward service database now drawn (.createUser user)
      (service.generateTokens (.register user) user.id user.email none now drawn).1
      (service.generateTokens (.register user) user.id user.email none now drawn).2
  | logsIn (email password : String) (user : UserRow) :
    Onward service database now drawn (.findLogin email password)
      (service.generateTokens (.login user) user.id user.email none now drawn).1
      (service.generateTokens (.login user) user.id user.email none now drawn).2
  | reads (decoded : RefreshTokenPayload) (record : RefreshTokenRow) :
    Onward service database now drawn (.findToken decoded) (.revokeToken record now) drawn
  | detects (decoded : RefreshTokenPayload) (record : RefreshTokenRow) (member : record ∈ database.tokens)
      (named : record.id = decoded.tokenId)
      (matched : service.bcrypt.compare decoded.secret record.tokenHash = true)
      (revoked : record.revokedAt ≠ none) :
    Onward service database now drawn (.findToken decoded) (.revokeFamily record.familyId now .reuse) drawn
  | spends (record : RefreshTokenRow) (revokedAt : Nat) :
    Onward service database now drawn (.revokeToken record revokedAt) (.findUser record) drawn
  | loses (record : RefreshTokenRow) (revokedAt : Nat)
      (gone : ¬ database.tokens.any (revokesToken record.id) = true) :
    Onward service database now drawn (.revokeToken record revokedAt)
      (.revokeFamily record.familyId now .reuse) drawn
  | revokes (familyId : String) (revokedAt : Nat) (revoker : Revoker) :
    Onward service database now drawn (.revokeFamily familyId revokedAt revoker) (.returned revoker.result) drawn
  | replaces (record : RefreshTokenRow) (email : String) : Onward service database now drawn (.findUser record)
      (service.generateTokens (.refresh record.id) record.userId email (some record.familyId) now drawn).1
      (service.generateTokens (.refresh record.id) record.userId email (some record.familyId) now drawn).2
  | hands (purpose : Purpose) (accessToken secret : String) (row : RefreshTokenRow)
      (free : ¬ database.tokens.any row.clashes = true) :
    Onward service database now drawn (.createToken purpose accessToken secret row)
      (.returned (.ok (purpose.reply (service.tokenPair accessToken secret row now)))) drawn
  | stays (result : Except String Reply) :
    Onward service database now drawn (.returned result) (.returned result) drawn

theorem proceed_onward (service : AuthService) (database : Database) (now drawn : Nat) (phase : Phase) :
    Onward service database now drawn phase (service.proceed database now drawn phase).1.1
      (service.proceed database now drawn phase).1.2 := by
  cases phase with
  | findRegistered email password displayName =>
    simp only [AuthService.proceed]
    split
    · exact .refuses ..
    · exact .names ..
  | createUser user =>
    simp only [AuthService.proceed]
    split
    · exact .refuses ..
    · exact .registers user
  | findLogin email password =>
    simp only [AuthService.proceed]
    split
    · exact .refuses ..
    · split
      · exact .refuses ..
      · split
        · exact .logsIn ..
        · exact .refuses ..
  | findToken decoded =>
    simp only [AuthService.proceed]
    split
    · exact .refuses ..
    · next record found =>
      split
      · exact .refuses ..
      · next matched =>
        split
        · exact .refuses ..
        · split
          · next revoked =>
            have named : record.id = decoded.tokenId := by simpa using List.find?_some found
            exact .detects decoded record (List.mem_of_find?_eq_some found) named (not_not.mp matched)
              (Option.isSome_iff_ne_none.mp revoked)
          · exact .reads ..
  | revokeToken record revokedAt =>
    simp only [AuthService.proceed]
    split
    · exact .spends ..
    · next gone => exact .loses record revokedAt gone
  | revokeFamily familyId revokedAt revoker => exact .revokes ..
  | findUser record => exact .replaces ..
  | createToken purpose accessToken secret row =>
    simp only [AuthService.proceed]
    split
    · exact .refuses ..
    · next free => exact .hands purpose accessToken secret row free
  | returned result => exact .stays result

theorem Onward.made {now : Nat} (onward : Onward service database now drawn phase phase' drawn')
    (creating : phase'.creating = some (secret, row)) :
    Made service drawn drawn' secret row ∧ row.revokedAt = none := by
  cases onward with
  | registers | logsIn | replaces => exact generateTokens_made creating
  | refuses | names | reads | detects | spends | loses | revokes | hands | stays => cases creating

theorem operate_rows (member : row ∈ (database.operate phase).tokens) :
    (∃ old ∈ database.tokens, old.id = row.id ∧ old.tokenHash = row.tokenHash) ∨
      ∃ secret, phase.creating = some (secret, row) := by
  have revoked {chosen : RefreshTokenRow → Bool} {revokedAt : Nat}
      (among : row ∈ revoke chosen revokedAt database.tokens) :
      ∃ old ∈ database.tokens, old.id = row.id ∧ old.tokenHash = row.tokenHash := by
    obtain ⟨old, present, written⟩ := List.mem_map.mp among
    refine ⟨old, present, ?_⟩
    split at written
    · subst written
      exact ⟨rfl, rfl⟩
    · subst written
      exact ⟨rfl, rfl⟩
  cases phase with
  | createUser user =>
    simp only [Database.operate] at member
    split at member
    · exact .inl ⟨row, member, rfl, rfl⟩
    · exact .inl ⟨row, member, rfl, rfl⟩
  | revokeToken record revokedAt => exact .inl (revoked member)
  | revokeFamily familyId revokedAt revoker => exact .inl (revoked member)
  | createToken purpose accessToken secret made =>
    simp only [Database.operate] at member
    split at member
    · exact .inl ⟨row, member, rfl, rfl⟩
    · rcases List.mem_append.mp member with old | new
      · exact .inl ⟨row, old, rfl, rfl⟩
      · rw [List.mem_singleton.mp new]
        exact .inr ⟨secret, rfl⟩
  | findRegistered | findLogin | findToken | findUser | returned => exact .inl ⟨row, member, rfl, rfl⟩

theorem Onward.handed {now : Nat} {reply : Reply} {tokens : TokenPair}
    (onward : Onward service database now drawn phase (.returned (.ok reply)) drawn')
    (session : reply.tokens? = some tokens) :
    phase = .returned (.ok reply) ∨ ∃ accessToken secret row, phase.creating = some (secret, row) ∧
      row ∈ (database.operate phase).tokens ∧ tokens = service.tokenPair accessToken secret row now := by
  generalize ended : Phase.returned (.ok reply) = phase' at onward
  cases onward with
  | hands purpose accessToken secret row free =>
    right
    refine ⟨accessToken, secret, row, rfl, by simp [Database.operate, free], ?_⟩
    cases purpose <;> cases ended <;> exact (Option.some.inj session).symm
  | revokes familyId revokedAt revoker => cases revoker <;> cases ended <;> cases session
  | stays result => exact .inl rfl
  | refuses | names | registers | logsIn | reads | detects | spends | loses | replaces => cases ended

end Rows

section Minting

variable {service : AuthService} {system : System} {database : Database} {phase phase' : Phase} {drawn' : Nat}

theorem creating_set {calls : List Phase} {id place : Nat} {users : Database} {drawn : Nat}
    (found : calls[id]? = some phase) :
    System.creating ⟨users, calls.set id phase', drawn⟩ place =
      if id = place then phase'.creating else calls[place]?.bind Phase.creating := by
  have inside := (List.getElem?_eq_some_iff.mp found).1
  split
  · next same =>
    subst same
    simp [System.creating, inside]
  · next other => simp [System.creating, List.getElem?_set_ne other]

theorem handed_grow {calls : List Phase} (grown : Grown system.database database)
    (handed : ∀ phase ∈ calls, ∀ reply tokens, phase = .returned (.ok reply) → reply.tokens? = some tokens →
      ∃ row ∈ system.database.tokens, StandsFor service tokens.refreshToken row) :
    ∀ phase ∈ calls, ∀ reply tokens, phase = .returned (.ok reply) → reply.tokens? = some tokens →
      ∃ row ∈ database.tokens, StandsFor service tokens.refreshToken row := by
  intro phase member reply tokens returned session
  obtain ⟨row, stored, stands⟩ := handed phase member reply tokens returned session
  obtain ⟨revokedAt, lasting⟩ := grown.tokens row stored
  exact ⟨_, lasting, stands⟩

theorem Minted.turned {id : Nat} (lawful : service.Lawful) (minted : Minted service system)
    (found : system.calls[id]? = some phase) (later : system.drawn ≤ drawn')
    (grown : Grown system.database database)
    (rows : ∀ row ∈ database.tokens,
      (∃ old ∈ system.database.tokens, old.id = row.id ∧ old.tokenHash = row.tokenHash) ∨
        ∃ secret, phase.creating = some (secret, row))
    (fresh : ∀ secret row, phase'.creating = some (secret, row) →
      Made service system.drawn drawn' secret row ∧ row.revokedAt = none)
    (handed : ∀ reply tokens, phase' = .returned (.ok reply) → reply.tokens? = some tokens →
      ∃ row ∈ database.tokens, StandsFor service tokens.refreshToken row) :
    Minted service ⟨database, system.calls.set id phase', drawn'⟩ := by
  have own {secret : String} {row : RefreshTokenRow} (creating : phase.creating = some (secret, row)) :
      system.creating id = some (secret, row) := by
    rw [System.creating, found]
    exact creating
  have stored (row : RefreshTokenRow) (member : row ∈ database.tokens) :
      ∃ secret, Made service 0 system.drawn secret row := by
    rcases rows row member with ⟨old, present, sameId, sameHash⟩ | ⟨secret, creating⟩
    · obtain ⟨secret, made⟩ := minted.stored old present
      exact ⟨secret, made.same sameId sameHash⟩
    · exact ⟨secret, (minted.made id secret row (own creating)).1⟩
  constructor
  case stored =>
    intro row member
    obtain ⟨secret, made⟩ := stored row member
    exact ⟨secret, made.later later⟩
  case made =>
    intro place secret row creating
    rw [creating_set found] at creating
    split at creating
    · obtain ⟨made, live⟩ := fresh secret row creating
      exact ⟨made.all, live⟩
    · obtain ⟨made, live⟩ := minted.made place secret row creating
      exact ⟨made.later later, live⟩
  case free =>
    intro place secret row creating other member
    rw [creating_set found] at creating
    split at creating
    · obtain ⟨_, before⟩ := stored other member
      exact before.free lawful (fresh secret row creating).1
    · next elsewhere =>
      rcases rows other member with ⟨old, present, sameId, sameHash⟩ | ⟨secret', creating'⟩
      · rw [← clashes_congr sameId sameHash]
        exact minted.free place secret row creating old present
      · by_contra clash
        exact elsewhere (minted.apart id place secret' secret other row (own creating') creating
          (by simpa [clashes_comm] using clash))
  case apart =>
    intro place place' secret secret' row row' creating creating' clash
    rw [creating_set found] at creating creating'
    split at creating
    · next here =>
      split at creating'
      · next here' => exact here.symm.trans here'
      · have clear := (minted.made place' secret' row' creating').1.free lawful (fresh secret row creating).1
        rw [clear] at clash
        cases clash
    · split at creating'
      · have clear := (minted.made place secret row creating).1.free lawful (fresh secret' row' creating').1
        rw [clashes_comm, clear] at clash
        cases clash
      · exact minted.apart place place' secret secret' row row' creating creating' clash
  case handed =>
    intro other member
    rcases List.mem_or_eq_of_mem_set member with old | new
    · exact handed_grow grown minted.handed other old
    · rw [new]
      exact handed

theorem Phase.creating_none (idle : phase.pending = none) : phase.creating = none := by
  cases phase with
  | createToken => cases idle
  | findRegistered | createUser | findLogin | findToken | revokeToken | revokeFamily | findUser | returned => rfl

theorem receive_creating (request : Request) (now : Nat) : (service.receive request now).creating = none :=
  (service.receive request now).creating_none (receive_rest service [] request now).1

theorem receive_tokens {request : Request} {now : Nat} {reply : Reply}
    (returned : service.receive request now = .returned (.ok reply)) : reply.tokens? = none := by
  cases request with
  | registerUser | loginUser =>
    simp only [AuthService.receive] at returned
    split at returned <;> cases returned
  | logoutUser refreshToken =>
    simp only [AuthService.receive] at returned
    split at returned
    · cases returned
      rfl
    · split at returned <;> cases returned
      rfl
  | refreshAccessToken rawRefreshToken =>
    simp only [AuthService.receive] at returned
    split at returned <;> cases returned
  | revokeTokenFamily familyId => cases returned

theorem failed_tokens {message : String} {reply : Reply}
    (returned : phase.failed message = .returned (.ok reply)) : reply.tokens? = none := by
  cases phase with
  | revokeFamily familyId revokedAt revoker =>
    cases revoker with
    | logout =>
      cases returned
      rfl
    | reuse | other => cases returned
  | findRegistered | createUser | findLogin | findToken | revokeToken | findUser | createToken | returned =>
    cases returned

theorem failed_creating (message : String) (phase : Phase) : (phase.failed message).creating = none := by
  obtain ⟨result, returned⟩ := phase.failed_returned message
  rw [returned]
  rfl

theorem Minted.called (minted : Minted service system) (request : Request) (now : Nat) :
    Minted service { system with calls := system.calls ++ [service.receive request now] } := by
  have same (place : Nat) :
      System.creating { system with calls := system.calls ++ [service.receive request now] } place =
        system.creating place := by
    simp only [System.creating, List.getElem?_append]
    split
    · rfl
    · next beyond =>
      rw [List.getElem?_eq_none (Nat.le_of_not_lt beyond)]
      cases place - system.calls.length with
      | zero => exact receive_creating request now
      | succ further => rfl
  constructor
  case stored => exact minted.stored
  case made =>
    intro place secret row creating
    rw [same] at creating
    exact minted.made place secret row creating
  case free =>
    intro place secret row creating
    rw [same] at creating
    exact minted.free place secret row creating
  case apart =>
    intro place place' secret secret' row row' creating creating'
    rw [same] at creating creating'
    exact minted.apart place place' secret secret' row row' creating creating'
  case handed =>
    intro phase member reply tokens returned session
    rcases List.mem_append.mp member with old | new
    · exact minted.handed phase old reply tokens returned session
    · rw [List.mem_singleton.mp new] at returned
      rw [receive_tokens returned] at session
      cases session

theorem Minted.answered {id : Nat} (lawful : service.Lawful) (minted : Minted service system) (now : Nat)
    (found : system.calls[id]? = some phase) :
    Minted service ⟨system.database.operate phase,
      system.calls.set id (service.proceed system.database now system.drawn phase).1.1,
      (service.proceed system.database now system.drawn phase).1.2⟩ := by
  have member := List.mem_of_getElem? found
  have grown := operate_grown system.database phase
  have onward := proceed_onward service system.database now system.drawn phase
  refine minted.turned lawful found (proceed_drawn ..) grown (fun row => operate_rows)
    (fun secret row => onward.made) ?_
  intro reply tokens returned session
  rw [returned] at onward
  rcases onward.handed session with before | ⟨accessToken, secret, row, creating, stored, pair⟩
  · exact handed_grow grown minted.handed phase member reply tokens before session
  · have held : system.creating id = some (secret, row) := by
      rw [System.creating, found]
      exact creating
    obtain ⟨salt, _, _, hashed⟩ := (minted.made id secret row held).1.hashed
    exact ⟨row, stored, secret, now, salt, hashed, by rw [pair]; rfl⟩

theorem Minted.rejected {id : Nat} (lawful : service.Lawful) (minted : Minted service system)
    (message : String) (effective : Bool) (found : system.calls[id]? = some phase) :
    Minted service { system with
      database := if effective then system.database.operate phase else system.database
      calls := system.calls.set id (phase.failed message) } := by
  have idle (drawn : Nat) (secret : String) (row : RefreshTokenRow)
      (creating : (phase.failed message).creating = some (secret, row)) :
      Made service drawn drawn secret row ∧ row.revokedAt = none := by
    rw [failed_creating] at creating
    cases creating
  have quiet (database : Database) (reply : Reply) (tokens : TokenPair)
      (returned : phase.failed message = .returned (.ok reply)) (session : reply.tokens? = some tokens) :
      ∃ row ∈ database.tokens, StandsFor service tokens.refreshToken row := by
    rw [failed_tokens returned] at session
    cases session
  cases effective with
  | false =>
    exact minted.turned lawful found le_rfl (.refl _) (fun row member => .inl ⟨row, member, rfl, rfl⟩)
      (idle _) (quiet _)
  | true =>
    exact minted.turned lawful found le_rfl (operate_grown ..) (fun row => operate_rows) (idle _) (quiet _)

theorem minted (lawful : service.Lawful) (inputs : List Input) : Minted service (final service inputs) := by
  induction inputs with
  | nil =>
    have nothing (place : Nat) (secret : String) (row : RefreshTokenRow) :
        System.initial.creating place ≠ some (secret, row) := by
      simp [System.creating, System.initial]
    exact {
      stored := List.forall_mem_nil _
      made := fun place secret row creating => absurd creating (nothing place secret row)
      free := fun place secret row creating => absurd creating (nothing place secret row)
      apart := fun place _ secret _ row _ creating => absurd creating (nothing place secret row)
      handed := List.forall_mem_nil _ }
  | cons input earlier ih =>
    cases input with
    | call request now => exact ih.called request now
    | answer id now =>
      have taken : final service (.answer id now :: earlier) =
        (service.step (final service earlier) (.answer id now)).2 := rfl
      rw [taken]
      simp only [AuthService.step]
      cases found : (final service earlier).calls[id]? with
      | none => exact ih
      | some phase => exact ih.answered lawful now found
    | reject id message effective =>
      have taken : final service (.reject id message effective :: earlier) =
        (service.step (final service earlier) (.reject id message effective)).2 := rfl
      rw [taken]
      simp only [AuthService.step]
      split
      · exact ih
      · exact ih
      · next phase _ found => exact ih.rejected lawful message effective found

end Minting

end Delego.Gateway
