import Delego.Gateway.AccessTokens
import Delego.Gateway.Minting

set_option autoImplicit false

namespace Delego.Gateway

open Shared

def Request.Ends (service : AuthService) (familyId : String) (now : Nat) : Request → Prop
  | .logoutUser (some refreshToken) =>
    ∃ decoded, service.verifyRefreshToken refreshToken now = .ok decoded ∧ decoded.familyId = familyId
  | .revokeTokenFamily ended => ended = familyId
  | .logoutUser none | .registerUser .. | .loginUser .. | .refreshAccessToken _ => False

def PresentedOnce (service : AuthService) (familyId : String) (asked : List Request) (database : Database) :
    Prop :=
  ∀ (place place' : Nat) request request' row, asked[place]? = some request → asked[place']? = some request' →
    row.familyId = familyId → Uses service database request row → Uses service database request' row →
      place = place'

structure Orderly (service : AuthService) (familyId : String) (inputs : List Input) : Prop where
  once : PresentedOnce service familyId (requests inputs) (final service inputs).database
  kept : ∀ request now, Input.call request now ∈ inputs → ¬ request.Ends service familyId now

def Input.answers (place : Nat) : Input → Bool
  | .answer id _ => id = place
  | .call .. | .reject .. => false

section Quiet

variable {service : AuthService} {familyId : String} {asked : List Request} {system : System}
  {database : Database} {phase phase' : Phase} {request : Request} {row : RefreshTokenRow} {drawn' : Nat}

def Phase.unspent : Phase → Bool
  | .findToken _ | .revokeToken .. => true
  | _ => false

/-- No call is about to revoke the family, and a token of it is revoked only when a call has used it up. -/
structure Quiet (service : AuthService) (familyId : String) (asked : List Request) (system : System) : Prop where
  kept : ∀ phase ∈ system.calls, ∀ revokedAt revoker, phase ≠ .revokeFamily familyId revokedAt revoker
  spent : ∀ row ∈ system.database.tokens, row.familyId = familyId → row.revokedAt ≠ none →
    ∃ (place : Nat) (request : Request) (phase : Phase), asked[place]? = some request ∧
      system.calls[place]? = some phase ∧ phase.unspent = false ∧ Uses service system.database request row

theorem Quiet.live {place : Nat} (quiet : Quiet service familyId asked system)
    (once : PresentedOnce service familyId asked system.database) (awaited : asked[place]? = some request)
    (found : system.calls[place]? = some phase) (unspent : phase.unspent = true)
    (uses : Uses service system.database request row) (member : row ∈ system.database.tokens)
    (family : row.familyId = familyId) : row.revokedAt = none := by
  by_contra revoked
  obtain ⟨place', request', phase', awaited', found', spent, uses'⟩ := quiet.spent row member family revoked
  obtain rfl := once place place' request request' row awaited awaited' family uses uses'
  obtain rfl := Option.some.inj (found.symm.trans found')
  rw [unspent] at spent
  cases spent

theorem requests_later {earlier : List Input} {place : Nat} (input : Input)
    (awaited : (requests earlier)[place]? = some request) :
    (requests (input :: earlier))[place]? = some request := by
  cases input with
  | call other now =>
    rw [requests, List.getElem?_append_left (List.getElem?_eq_some_iff.mp awaited).1]
    exact awaited
  | answer | reject => exact awaited

theorem Orderly.earlier {input : Input} {earlier : List Input}
    (orderly : Orderly service familyId (input :: earlier)) : Orderly service familyId earlier := by
  have grown := step_grown service (final service earlier) input
  constructor
  case once =>
    intro place place' request request' row awaited awaited' family uses uses'
    exact orderly.once place place' request request' row (requests_later input awaited)
      (requests_later input awaited') family (uses.grow grown) (uses'.grow grown)
  case kept => exact fun request now member => orderly.kept request now (List.mem_cons_of_mem _ member)

theorem Quiet.turned {id : Nat} (quiet : Quiet service familyId asked system)
    (found : system.calls[id]? = some phase) (awaited : asked[id]? = some request)
    (grown : Grown system.database database) (still : phase.unspent = false → phase'.unspent = false)
    (kept : ∀ revokedAt revoker, phase' ≠ .revokeFamily familyId revokedAt revoker)
    (rows : ∀ row ∈ database.tokens, row.familyId = familyId → row.revokedAt ≠ none →
      (∃ revokedAt ≠ none, { row with revokedAt } ∈ system.database.tokens) ∨
        phase'.unspent = false ∧ Uses service database request row) :
    Quiet service familyId asked ⟨database, system.calls.set id phase', drawn'⟩ := by
  have inside := (List.getElem?_eq_some_iff.mp found).1
  constructor
  case kept =>
    intro other member
    rcases List.mem_or_eq_of_mem_set member with old | new
    · exact quiet.kept other old
    · rw [new]
      exact kept
  case spent =>
    intro row member family revoked
    rcases rows row member family revoked with ⟨revokedAt, before, stored⟩ | ⟨spent, uses⟩
    · obtain ⟨place, request', other, awaited', found', spent, uses⟩ :=
        quiet.spent _ stored family before
      -- A use of a row does not depend on its revocation.
      have used : Uses service system.database request' row := uses
      have uses := used.grow grown
      by_cases own : id = place
      · subst own
        obtain rfl := Option.some.inj (found.symm.trans found')
        exact ⟨id, request', phase', awaited', List.getElem?_set_self inside, still spent, uses⟩
      · exact ⟨place, request', other, awaited', by rw [List.getElem?_set_ne own]; exact found', spent, uses⟩
    · exact ⟨id, request, phase', awaited, List.getElem?_set_self inside, spent, uses⟩

theorem Onward.unspent {now drawn : Nat} (onward : Onward service database now drawn phase phase' drawn')
    (spent : phase.unspent = false) : phase'.unspent = false := by
  cases onward with
  | reads | detects | spends | loses => cases spent
  | refuses | names | registers | logsIn | revokes | replaces | hands | stays => rfl

theorem operate_spent (unrevoking : ∀ revokedAt revoker, phase ≠ .revokeFamily familyId revokedAt revoker)
    (live : ∀ secret row, phase.creating = some (secret, row) → row.revokedAt = none)
    (member : row ∈ (database.operate phase).tokens) (family : row.familyId = familyId)
    (revoked : row.revokedAt ≠ none) :
    (∃ revokedAt ≠ none, { row with revokedAt } ∈ database.tokens) ∨
      ∃ record at' revokedAt, phase = .revokeToken record at' ∧ { row with revokedAt } ∈ database.tokens ∧
        row.id = record.id := by
  cases phase with
  | createUser user =>
    simp only [Database.operate] at member
    split at member
    · exact .inl ⟨row.revokedAt, revoked, member⟩
    · exact .inl ⟨row.revokedAt, revoked, member⟩
  | revokeToken record at' =>
    obtain ⟨old, present, written⟩ := List.mem_map.mp member
    split at written
    · next chosen =>
      subst written
      exact .inr ⟨record, at', old.revokedAt, rfl, present, (revokesToken_iff.mp chosen).1⟩
    · subst written
      exact .inl ⟨old.revokedAt, revoked, present⟩
  | revokeFamily other at' revoker =>
    obtain ⟨old, present, written⟩ := List.mem_map.mp member
    split at written
    · next chosen =>
      subst written
      have same : other = familyId := (of_decide_eq_true chosen).symm.trans family
      subst same
      exact absurd rfl (unrevoking at' revoker)
    · subst written
      exact .inl ⟨old.revokedAt, revoked, present⟩
  | createToken purpose accessToken secret made =>
    simp only [Database.operate] at member
    split at member
    · exact .inl ⟨row.revokedAt, revoked, member⟩
    · rcases List.mem_append.mp member with old | new
      · exact .inl ⟨row.revokedAt, revoked, old⟩
      · rw [List.mem_singleton.mp new, live secret made rfl] at revoked
        exact absurd rfl revoked
  | findRegistered | findLogin | findToken | findUser | returned => exact .inl ⟨row.revokedAt, revoked, member⟩

theorem Uses.of_id {record : RefreshTokenRow} {revokedAt : Option Nat}
    (unique : (database.tokens.map RefreshTokenRow.id).Nodup) (uses : Uses service database request record)
    (member : { row with revokedAt } ∈ database.tokens) (same : row.id = record.id) :
    Uses service database request row ∧ row.familyId = record.familyId := by
  obtain ⟨raw, revokedAt', asked, decoded, now, verified, member', named, compared⟩ := uses
  have equal : { row with revokedAt } = { record with revokedAt := revokedAt' } :=
    List.inj_on_of_nodup_map unique member member' same
  simp only [RefreshTokenRow.mk.injEq] at equal
  obtain ⟨_, _, hashes, families, _⟩ := equal
  refine ⟨⟨raw, revokedAt, asked, decoded, now, verified, member, same.trans named, ?_⟩, families⟩
  rw [← hashes] at compared
  exact compared

structure Settled (service : AuthService) (asked : List Request) (system : System) : Prop where
  sound : Sound service asked system
  minted : Minted service system
  unique : (system.database.tokens.map RefreshTokenRow.id).Nodup

theorem Settled.creating {id : Nat} (settled : Settled service asked system)
    (found : system.calls[id]? = some phase) :
    ∀ secret row, phase.creating = some (secret, row) → row.revokedAt = none := by
  intro secret row creating
  refine (settled.minted.made id secret row ?_).2
  rw [System.creating, found]
  exact creating

theorem Settled.record {id : Nat} {record : RefreshTokenRow} {revokedAt : Nat}
    (settled : Settled service asked system) (found : system.calls[id]? = some (.revokeToken record revokedAt)) :
    ∃ request, asked[id]? = some request ∧ Uses service system.database request record ∧
      ∃ revokedAt, { record with revokedAt } ∈ system.database.tokens := by
  obtain ⟨request, awaited, serves⟩ := settled.sound.request found
  have uses : Uses service system.database request record := serves
  obtain ⟨raw, revokedAt, asked, decoded, now, verified, member, matched⟩ := uses
  exact ⟨request, awaited, serves, revokedAt, member⟩

theorem Quiet.unrevoked {id : Nat} {record : RefreshTokenRow} {revokedAt : Nat}
    (quiet : Quiet service familyId asked system) (settled : Settled service asked system)
    (once : PresentedOnce service familyId asked system.database)
    (found : system.calls[id]? = some (.revokeToken record revokedAt)) (family : record.familyId = familyId) :
    system.database.tokens.any (revokesToken record.id) = true := by
  obtain ⟨request, awaited, uses, revokedAt, member⟩ := settled.record found
  have uses : Uses service system.database request { record with revokedAt } := uses
  have live := quiet.live once awaited found rfl uses member family
  exact List.any_eq_true.mpr ⟨_, member, revokesToken_iff.mpr ⟨rfl, live⟩⟩

theorem Quiet.unread {id : Nat} {decoded : RefreshTokenPayload}
    (quiet : Quiet service familyId asked system) (settled : Settled service asked system)
    (once : PresentedOnce service familyId asked system.database)
    (found : system.calls[id]? = some (.findToken decoded)) (member : row ∈ system.database.tokens)
    (named : row.id = decoded.tokenId) (matched : service.bcrypt.compare decoded.secret row.tokenHash = true)
    (family : row.familyId = familyId) : row.revokedAt = none := by
  obtain ⟨request, awaited, raw, now, asked, verified⟩ := settled.sound.request found
  have uses : Uses service system.database request row :=
    ⟨raw, row.revokedAt, asked, decoded, now, verified, member, named, matched⟩
  exact quiet.live once awaited found rfl uses member family

theorem Quiet.operated {id : Nat} (quiet : Quiet service familyId asked system)
    (settled : Settled service asked system) (found : system.calls[id]? = some phase)
    (awaited : asked[id]? = some request) (spent : ∀ record at', phase = .revokeToken record at' →
      phase'.unspent = false) :
    ∀ row ∈ (system.database.operate phase).tokens, row.familyId = familyId → row.revokedAt ≠ none →
      (∃ revokedAt ≠ none, { row with revokedAt } ∈ system.database.tokens) ∨
        phase'.unspent = false ∧ Uses service (system.database.operate phase) request row := by
  intro row member family revoked
  rcases operate_spent (quiet.kept phase (List.mem_of_getElem? found)) (settled.creating found) member family
    revoked with before | ⟨record, at', revokedAt, revoking, stored, same⟩
  · exact .inl before
  · subst revoking
    obtain ⟨request', awaited', uses, _⟩ := settled.record found
    obtain rfl := Option.some.inj (awaited.symm.trans awaited')
    exact .inr ⟨spent record at' rfl, (uses.of_id settled.unique stored same).1.grow (operate_grown ..)⟩

theorem Quiet.answered {id : Nat} (quiet : Quiet service familyId asked system)
    (settled : Settled service asked system) (once : PresentedOnce service familyId asked system.database)
    (now : Nat) (found : system.calls[id]? = some phase) :
    Quiet service familyId asked ⟨system.database.operate phase,
      system.calls.set id (service.proceed system.database now system.drawn phase).1.1,
      (service.proceed system.database now system.drawn phase).1.2⟩ := by
  obtain ⟨request, awaited, _⟩ := settled.sound.request found
  have onward := proceed_onward service system.database now system.drawn phase
  generalize (service.proceed system.database now system.drawn phase).1.1 = phase',
    (service.proceed system.database now system.drawn phase).1.2 = drawn' at onward ⊢
  refine quiet.turned found awaited (operate_grown ..) onward.unspent ?_
    (quiet.operated settled found awaited ?_)
  · rintro revokedAt revoker rfl
    generalize revoking : Phase.revokeFamily familyId revokedAt revoker = phase' at onward
    cases onward with
    | detects decoded record member named matched revoked =>
      cases revoking
      exact revoked (quiet.unread settled once found member named matched rfl)
    | loses record at' gone =>
      cases revoking
      exact gone (quiet.unrevoked settled once found rfl)
    | refuses | names | registers | logsIn | reads | spends | revokes | replaces | hands | stays => cases revoking
  · rintro record at' rfl
    cases onward with
    | refuses | spends | loses => rfl

theorem Quiet.rejected {id : Nat} (quiet : Quiet service familyId asked system)
    (settled : Settled service asked system) (message : String) (effective : Bool)
    (found : system.calls[id]? = some phase) :
    Quiet service familyId asked { system with
      database := if effective then system.database.operate phase else system.database
      calls := system.calls.set id (phase.failed message) } := by
  obtain ⟨request, awaited, _⟩ := settled.sound.request found
  obtain ⟨result, returned⟩ := phase.failed_returned message
  have ended : (phase.failed message).unspent = false := by
    rw [returned]
    rfl
  have kept (revokedAt : Nat) (revoker : Revoker) :
      phase.failed message ≠ .revokeFamily familyId revokedAt revoker := by
    rw [returned]
    simp
  cases effective with
  | false =>
    exact quiet.turned found awaited (.refl _) (fun _ => ended) kept fun row member _ revoked =>
      .inl ⟨row.revokedAt, revoked, member⟩
  | true =>
    exact quiet.turned found awaited (operate_grown ..) (fun _ => ended) kept
      (quiet.operated settled found awaited fun _ _ _ => ended)

theorem Quiet.called (quiet : Quiet service familyId asked system) (request : Request) (now : Nat)
    (kept : ¬ request.Ends service familyId now) :
    Quiet service familyId (asked ++ [request])
      { system with calls := system.calls ++ [service.receive request now] } := by
  constructor
  case kept =>
    intro phase member revokedAt revoker revokes
    rcases List.mem_append.mp member with old | new
    · exact quiet.kept phase old revokedAt revoker revokes
    · rw [List.mem_singleton.mp new] at revokes
      refine kept ?_
      cases request with
      | registerUser | loginUser =>
        simp only [AuthService.receive] at revokes
        split at revokes <;> cases revokes
      | logoutUser refreshToken =>
        simp only [AuthService.receive] at revokes
        split at revokes
        · cases revokes
        · next token given =>
          split at revokes
          · next decoded verified =>
            cases revokes
            have sent := (Option.filter_eq_some_iff.mp given).1
            subst sent
            exact ⟨decoded, verified, rfl⟩
          · cases revokes
      | refreshAccessToken rawRefreshToken =>
        simp only [AuthService.receive] at revokes
        split at revokes <;> cases revokes
      | revokeTokenFamily other =>
        cases revokes
        rfl
  case spent =>
    intro row member family revoked
    obtain ⟨place, request', phase, awaited, found, spent, uses⟩ := quiet.spent row member family revoked
    refine ⟨place, request', phase, ?_, ?_, spent, uses⟩
    · rw [List.getElem?_append_left (List.getElem?_eq_some_iff.mp awaited).1]
      exact awaited
    · rw [List.getElem?_append_left (List.getElem?_eq_some_iff.mp found).1]
      exact found

theorem settled (lawful : service.Lawful) (inputs : List Input) :
    Settled service (requests inputs) (final service inputs) where
  sound := sound service inputs
  minted := minted lawful inputs
  unique := (balanced service inputs).unique

theorem Orderly.quiet {inputs : List Input} (lawful : service.Lawful) (orderly : Orderly service familyId inputs) :
    Quiet service familyId (requests inputs) (final service inputs) := by
  induction inputs with
  | nil => exact ⟨List.forall_mem_nil _, List.forall_mem_nil _⟩
  | cons input earlier ih =>
    have before := ih orderly.earlier
    have known := settled lawful earlier
    cases input with
    | call request now =>
      exact before.called request now (orderly.kept request now List.mem_cons_self)
    | answer id now =>
      have taken : final service (.answer id now :: earlier) =
        (service.step (final service earlier) (.answer id now)).2 := rfl
      rw [taken]
      simp only [AuthService.step]
      cases found : (final service earlier).calls[id]? with
      | none => exact before
      | some phase => exact before.answered known orderly.earlier.once now found
    | reject id message effective =>
      have taken : final service (.reject id message effective :: earlier) =
        (service.step (final service earlier) (.reject id message effective)).2 := rfl
      rw [taken]
      simp only [AuthService.step]
      split
      · exact before
      · exact before
      · next phase _ found => exact before.rejected known message effective found

end Quiet

section Stages

variable {service : AuthService} {asked : List Request} {system : System} {phase : Phase}
  {used : RefreshTokenRow} {rawRefreshToken : String} {place : Nat}

def Phase.stage : Phase → Option Nat
  | .findToken _ => some 0
  | .revokeToken .. => some 1
  | .findUser _ => some 2
  | .createToken (.refresh _) .. => some 3
  | .returned (.ok (.refreshed _)) => some 4
  | _ => none

theorem AuthService.Lawful.decodes (lawful : service.Lawful) (stands : StandsFor service rawRefreshToken used)
    {decoded : RefreshTokenPayload} {now : Nat}
    (verified : service.verifyRefreshToken rawRefreshToken now = .ok decoded) :
    decoded.tokenId = used.id ∧ decoded.familyId = used.familyId ∧ decoded.userId = used.userId ∧
      service.bcrypt.compare decoded.secret used.tokenHash = true := by
  obtain ⟨secret, signedAt, salt, hashed, rfl⟩ := stands
  simp only [AuthService.verifyRefreshToken] at verified
  cases accepted : service.jwt.verify
      (service.jwt.sign (service.refreshSigning ⟨used.id, used.familyId, used.userId, secret⟩ signedAt))
      service.jwtSecret service.config now with
  | error message =>
    rw [accepted] at verified
    cases verified
  | ok payload =>
    rw [accepted, lawful.carries _ _ _ _ accepted] at verified
    cases verified
    exact ⟨rfl, rfl, rfl, hashed ▸ lawful.compares salt secret⟩

structure Refreshing (service : AuthService) (asked : List Request) (system : System) (place : Nat)
    (rawRefreshToken : String) (used : RefreshTokenRow) : Prop where
  stands : StandsFor service rawRefreshToken used
  lasts : Lasts system.database.tokens used
  awaited : asked[place]? = some (.refreshAccessToken rawRefreshToken)

theorem Quiet.advances (lawful : service.Lawful) (quiet : Quiet service used.familyId asked system)
    (settled : Settled service asked system)
    (once : PresentedOnce service used.familyId asked system.database)
    (refreshing : Refreshing service asked system place rawRefreshToken used) {now stage : Nat}
    (timely : now ≤ used.expiresAt) (found : system.calls[place]? = some phase)
    (reached : phase.stage = some stage) :
    (service.proceed system.database now system.drawn phase).1.1.stage = some (min (stage + 1) 4) := by
  have serves := settled.sound.serves place phase _ found refreshing.awaited
  obtain ⟨revokedAt, stored⟩ := refreshing.lasts
  cases phase with
  | findToken decoded =>
    cases reached
    obtain ⟨raw, verifiedAt, asked, verified⟩ := serves
    cases asked
    obtain ⟨named, _, _, matched⟩ := lawful.decodes refreshing.stands verified
    have read : system.database.tokens.find? (fun row => row.id = decoded.tokenId) =
        some { used with revokedAt } := by
      rw [named]
      exact find_key settled.unique stored
    have live := quiet.unread settled once found stored named.symm matched rfl
    simp only at live
    subst live
    simp only [AuthService.proceed, read, matched, not_true_eq_false, if_false, Nat.not_lt.mpr timely,
      Option.isSome_none, Bool.false_eq_true]
    rfl
  | revokeToken record revokedAt' =>
    cases reached
    have uses : Uses service system.database (.refreshAccessToken rawRefreshToken) record := serves
    obtain ⟨raw, later, asked, decoded, verifiedAt, verified, member, same, _⟩ := id uses
    cases asked
    obtain ⟨named, _, _, _⟩ := lawful.decodes refreshing.stands verified
    have owned := uses.of_id settled.unique stored (named.symm.trans same.symm)
    have live := quiet.unrevoked settled once found owned.2.symm
    simp only [AuthService.proceed, live, if_true]
    rfl
  | findUser record =>
    cases reached
    rfl
  | createToken purpose accessToken secret row =>
    cases purpose with
    | refresh tokenId =>
      cases reached
      have creating : system.creating place = some (secret, row) := by
        rw [System.creating, found]
        rfl
      have free : system.database.tokens.any row.clashes = false := by
        rw [List.any_eq_false]
        intro other member
        rw [settled.minted.free place secret row creating other member]
        simp
      simp only [AuthService.proceed, free, Bool.false_eq_true, if_false]
      rfl
    | register | login => cases reached
  | returned result =>
    cases result with
    | error message => cases reached
    | ok reply =>
      cases reply with
      | refreshed tokens =>
        cases reached
        rfl
      | registered | loggedIn | done => cases reached
  | findRegistered | createUser | findLogin | revokeFamily => cases reached

theorem step_elsewhere {input : Input} (found : system.calls[place]? = some phase)
    (other : Input.answers place input = false)
    (unfailed : ∀ message effective, input ≠ .reject place message effective) :
    (service.step system input).2.calls[place]? = some phase := by
  cases input with
  | call request now =>
    have inside := (List.getElem?_eq_some_iff.mp found).1
    simp only [AuthService.step, List.getElem?_append_left inside, found]
  | answer id now =>
    have apart : id ≠ place := by simpa [Input.answers] using other
    simp only [AuthService.step]
    split
    · exact found
    · simp only [List.getElem?_set_ne apart, found]
  | reject id message effective =>
    have apart : id ≠ place := by
      rintro rfl
      exact unfailed message effective rfl
    simp only [AuthService.step]
    split
    · exact found
    · exact found
    · simp only [List.getElem?_set_ne apart, found]

structure Underway (service : AuthService) (inputs : List Input) (place : Nat) (rawRefreshToken : String)
    (used : RefreshTokenRow) (answers : Nat) : Prop where
  refreshing : Refreshing service (requests inputs) (final service inputs) place rawRefreshToken used
  reached : ∃ phase, (final service inputs).calls[place]? = some phase ∧
    phase.stage = some (min answers 4)

theorem Underway.step {input : Input} {inputs : List Input} {answers : Nat} (lawful : service.Lawful)
    (underway : Underway service inputs place rawRefreshToken used answers)
    (orderly : Orderly service used.familyId (input :: inputs))
    (unfailed : ∀ message effective, input ≠ .reject place message effective)
    (timely : ∀ later, input = .answer place later → later ≤ used.expiresAt) :
    Underway service (input :: inputs) place rawRefreshToken used
      (answers + if input.answers place then 1 else 0) := by
  obtain ⟨refreshing, phase, found, reached⟩ := underway
  have taken : final service (input :: inputs) = (service.step (final service inputs) input).2 := rfl
  constructor
  case refreshing =>
    exact ⟨refreshing.stands, refreshing.lasts.grow (step_grown service _ input),
      requests_later input refreshing.awaited⟩
  case reached =>
    rw [taken]
    cases own : Input.answers place input with
    | false => exact ⟨phase, step_elsewhere found own unfailed, reached⟩
    | true =>
      cases input with
      | call | reject => cases own
      | answer id later =>
        have same : id = place := of_decide_eq_true own
        subst same
        have goes := (orderly.earlier.quiet lawful).advances lawful (settled lawful inputs)
          orderly.earlier.once refreshing (timely later rfl) found reached
        simp only [AuthService.step, found]
        refine ⟨_, List.getElem?_set_self (List.getElem?_eq_some_iff.mp found).1, ?_⟩
        rw [goes, if_pos trivial]
        congr 1
        omega

theorem Underway.start {before : List Input} {now : Nat} {decoded : RefreshTokenPayload}
    (verified : service.verifyRefreshToken rawRefreshToken now = .ok decoded)
    (stands : StandsFor service rawRefreshToken used)
    (stored : Lasts (final service before).database.tokens used) :
    Underway service (.call (.refreshAccessToken rawRefreshToken) now :: before) (requests before).length
      rawRefreshToken used 0 := by
  have called : final service (.call (.refreshAccessToken rawRefreshToken) now :: before) =
      { final service before with calls := (final service before).calls ++ [.findToken decoded] } := by
    simp only [final, Run.final, AuthService.step, AuthService.receive, verified]
  constructor
  case refreshing =>
    rw [called]
    exact ⟨stands, stored, by simp [requests]⟩
  case reached =>
    refine ⟨.findToken decoded, ?_, rfl⟩
    rw [called, ← (sound service before).placed]
    simp

theorem Underway.run {before after : List Input} (lawful : service.Lawful)
    (underway : Underway service before place rawRefreshToken used 0)
    (orderly : Orderly service used.familyId (after ++ before))
    (unfailed : ∀ message effective, Input.reject place message effective ∉ after)
    (timely : ∀ later, Input.answer place later ∈ after → later ≤ used.expiresAt) :
    Underway service (after ++ before) place rawRefreshToken used (after.countP (Input.answers place)) := by
  induction after with
  | nil => exact underway
  | cons input after ih =>
    have within := ih orderly.earlier
      (fun message effective member => unfailed message effective (List.mem_cons_of_mem _ member))
      (fun later member => timely later (List.mem_cons_of_mem _ member))
    rw [List.countP_cons]
    refine within.step lawful orderly ?_ ?_
    · rintro message effective rfl
      exact unfailed message effective List.mem_cons_self
    · rintro later rfl
      exact timely later List.mem_cons_self

end Stages

/-- Whoever uses a session in an orderly way keeps it: the refresh token of any answer, when it is presented
before it expires and no operation of the call fails, gets the next session of its user and family once four
answers have come, whatever else is done to the service in between. -/
theorem refresh_granted (service : AuthService) (lawful : service.Lawful) (before after : List Input)
    (issued now : Nat) (reply : Reply) (tokens : TokenPair) (decoded : RefreshTokenPayload)
    (returned : (final service before).calls[issued]? = some (.returned (.ok reply)))
    (session : reply.tokens? = some tokens)
    (verified : service.verifyRefreshToken tokens.refreshToken now = .ok decoded)
    (orderly : Orderly service decoded.familyId
      (after ++ .call (.refreshAccessToken tokens.refreshToken) now :: before))
    (unfailed : ∀ message effective, Input.reject (requests before).length message effective ∉ after)
    (timely : ∀ row ∈ (final service before).database.tokens, row.id = decoded.tokenId →
      ∀ later, Input.answer (requests before).length later ∈ after → later ≤ row.expiresAt)
    (answered : 4 ≤ after.countP (Input.answers (requests before).length)) :
    let system := final service (after ++ .call (.refreshAccessToken tokens.refreshToken) now :: before)
    ∃ next user, system.calls[(requests before).length]? = some (.returned (.ok (.refreshed next))) ∧
      user ∈ system.database.users ∧ user.id = decoded.userId ∧
        PairFor service system.database user (· = decoded.familyId) next := by
  intro system
  obtain ⟨used, member, stands⟩ := (minted lawful before).handed _ (List.mem_of_getElem? returned) reply tokens
    rfl session
  obtain ⟨named, family, owner, _⟩ := lawful.decodes stands verified
  rw [family] at orderly ⊢
  rw [owner]
  have start := Underway.start verified stands (.here member)
  obtain ⟨refreshing, phase, found, reached⟩ :=
    start.run lawful orderly unfailed (timely used member named.symm)
  have known := settled lawful (after ++ .call (.refreshAccessToken tokens.refreshToken) now :: before)
  rw [Nat.min_eq_right answered] at reached
  have serves := known.sound.serves _ phase _ found refreshing.awaited
  cases phase with
  | returned result =>
    cases result with
    | error message => cases reached
    | ok reply =>
      cases reply with
      | refreshed next =>
        obtain ⟨row, user, ⟨presented, verifiedAt, verified', stored, same, _⟩, among, owned, pair⟩ := serves
        obtain ⟨named', _, _, _⟩ := lawful.decodes stands verified'
        obtain ⟨revokedAt, lasting⟩ := refreshing.lasts
        have equal : row = { used with revokedAt } :=
          List.inj_on_of_nodup_map known.unique stored lasting (same.trans named')
        rw [equal] at owned pair
        exact ⟨next, user, found, among, owned, pair⟩
      | registered | loggedIn | done => cases reached
  | createToken purpose accessToken secret row => cases purpose <;> cases reached
  | findRegistered | createUser | findLogin | findToken | revokeToken | revokeFamily | findUser => cases reached

-- A library that names the tokens by their places among those that are signed.
def namingLibrary (signed : List Signing) : Jwt where
  sign signing := sampleUUID (signed.idxOf signing)
  verify token secret config now :=
    match signed.find? fun signing => sampleUUID (signed.idxOf signing) = token with
    | none => .error "jwt malformed"
    | some signing =>
      if signing.secret = secret ∧ signing.current config now then .ok signing.payload
      else .error "jwt expired"

-- Hashes that show their salt by its length.
def saltedBcrypt : Bcrypt where
  hash salt text := String.ofList (List.replicate salt 'a' ++ '$' :: text.toList)
  compare text hash := hash.toList.dropWhile (· = 'a') = '$' :: text.toList

def refreshingService : AuthService :=
  let service (jwt : Jwt) : AuthService :=
    { sampleService with jwt, bcrypt := saltedBcrypt }
  let unsigned := service (namingLibrary [])
  service (namingLibrary
    [unsigned.accessSigning "a" "ada@example.org" ["user"] 0,
      unsigned.refreshSigning ⟨"aa", "aaa", "a", "aaaa"⟩ 0,
      unsigned.accessSigning "a" "ada@example.org" ["user"] 1000,
      unsigned.refreshSigning ⟨"aaaaa", "aaa", "a", "aaaaaa"⟩ 1000])

theorem namingLibrary_carries {signed : List Signing} {signing : Signing} {secret : String}
    {config : JwtValidationConfig} {now : Nat} {payload : Payload}
    (accepted : (namingLibrary signed).verify ((namingLibrary signed).sign signing) secret config now =
      .ok payload) : payload = signing.payload := by
  simp only [namingLibrary] at accepted
  split at accepted
  · cases accepted
  · next other found =>
    split at accepted
    · have named : sampleUUID (signed.idxOf other) = sampleUUID (signed.idxOf signing) := by
        simpa using List.find?_some found
      have same := (List.idxOf_inj (List.mem_of_find?_eq_some found)).mp (sampleUUID.injective named)
      cases accepted
      rw [same]
    · cases accepted

theorem saltedBcrypt_salted {salt salt' : Nat} {text text' : String}
    (same : saltedBcrypt.hash salt text = saltedBcrypt.hash salt' text') : salt = salt' := by
  have characters := String.ofList_injective same
  have salts := congrArg (fun hash => (hash.takeWhile (· = 'a')).length) characters
  simpa [List.takeWhile_append_of_pos] using salts

theorem refreshingService_lawful : refreshingService.Lawful where
  carries _ _ _ _ accepted := namingLibrary_carries accepted
  compares salt text := by
    simp [refreshingService, saltedBcrypt]
  salted _ _ _ _ same := saltedBcrypt_salted same

def registration : List Input :=
  [.answer 0 0, .answer 0 0, .answer 0 0, .call (.registerUser "ada@example.org" "password" none) 0]

def refreshAnswers : List Input := List.replicate 4 (.answer 1 1000)

theorem refresh_granted_sample :
    let system := final refreshingService
      (refreshAnswers ++ .call (.refreshAccessToken "aa") 1000 :: registration)
    ∃ next user, system.calls[1]? = some (.returned (.ok (.refreshed next))) ∧
      user ∈ system.database.users ∧ user.id = "a" ∧
        PairFor refreshingService system.database user (· = "aaa") next := by
  have single (place : Nat) (rawRefreshToken : String)
      (asked : (requests (refreshAnswers ++ .call (.refreshAccessToken "aa") 1000 :: registration))[place]? =
        some (.refreshAccessToken rawRefreshToken)) : place = 1 := by
    match place with
    | 0 => cases asked
    | 1 => rfl
    | further + 2 => cases asked
  refine refresh_granted refreshingService refreshingService_lawful registration refreshAnswers 0 1000
    (.registered ⟨"a", "ada@example.org", some "$password", none, none⟩ ⟨"a", "aa", 900⟩) ⟨"a", "aa", 900⟩
    ⟨"aa", "aaa", "a", "aaaa"⟩ ?returned rfl ?verified ?orderly ?unfailed ?timely ?answered
  case returned => rfl
  case verified => rfl
  case orderly =>
    constructor
    case once =>
      rintro place place' request request' row awaited awaited' _ ⟨raw, _, rfl, _⟩ ⟨raw', _, rfl, _⟩
      exact (single place raw awaited).trans (single place' raw' awaited').symm
    case kept =>
      intro request now member
      have called : Input.call request now ∈ registration ∨
          Input.call request now = .call (.refreshAccessToken "aa") 1000 := by
        simpa [refreshAnswers, or_comm] using member
      rcases called with earlier | own
      · have registered : request = .registerUser "ada@example.org" "password" none := by
          have only : request = .registerUser "ada@example.org" "password" none ∧ now = 0 := by
            simpa [registration] using earlier
          exact only.1
        subst registered
        exact not_false
      · cases own
        exact not_false
  case unfailed => simp [refreshAnswers]
  case timely =>
    intro row member named later answer
    obtain ⟨_, rfl⟩ : (requests registration).length = 1 ∧ later = 1000 := by
      simpa [refreshAnswers] using answer
    have expiries : ∀ row ∈ (final refreshingService registration).database.tokens, 1000 ≤ row.expiresAt := by
      decide +kernel
    exact expiries row member
  case answered => decide

end Delego.Gateway
