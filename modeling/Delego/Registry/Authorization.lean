import Delego.Registry.Step
import Delego.Shared.Trace

set_option autoImplicit false

namespace Delego.Registry

open Shared Soroban

inductive Deed where
  | created (creation : Creation)
  | paused
  | resumed
  | revoked

def Deed.Switches (deed : Deed) : Prop := deed = .paused ∨ deed = .resumed

def deedOf (id : U64) (receipt : CallReceipt) : Option Deed :=
  match receipt.input.call, receipt.output with
  | .createDelegation .., .ok _ =>
    (created receipt).bind fun creation => if creation.id = id then some (.created creation) else none
  | .pauseDelegation target, .ok _ => if target = id then some .paused else none
  | .resumeDelegation target, .ok _ => if target = id then some .resumed else none
  | .revokeDelegation target, .ok _ => if target = id then some .revoked else none
  | _, _ => none

def deedsOf (id : U64) (receipts : List CallReceipt) : List Deed := receipts.filterMap (deedOf id)

inductive DeedStep : Deed → Option DelegationRecord → DelegationRecord → Prop
  | created {creation : Creation} {record : DelegationRecord}
      (agent : record.agentId = creation.agentId) (active : record.status = .active)
      (expiry : record.expiresAtLedger.toInt =
        creation.env.sequence.toInt + creation.ttlLedgers.toInt) :
      DeedStep (.created creation) none record
  | paused {record : DelegationRecord} (active : record.status = .active) :
      DeedStep .paused (some record) { record with status := .paused }
  | resumed {record : DelegationRecord} (paused : record.status = .paused) :
      DeedStep .resumed (some record) { record with status := .active }
  | revoked {record : DelegationRecord} :
      DeedStep .revoked (some record) { record with status := .revoked }

variable {deed : Deed} {deeds : List Deed} {record : DelegationRecord} {status : DelegationStatus}
  {id : U64} {before : Option DelegationRecord}

structure Standing (deeds : List Deed) (record : DelegationRecord) : Prop where
  created : ∃ creation, .created creation ∈ deeds
  terms : ∀ creation, .created creation ∈ deeds → record.agentId = creation.agentId ∧
    record.expiresAtLedger.toInt = creation.env.sequence.toInt + creation.ttlLedgers.toInt
  revoked : .revoked ∈ deeds ↔ record.status = .revoked
  switched : record.status ≠ .revoked → (record.status = .active ↔
    ∀ since switch, LastMarked Deed.Switches deeds since switch → switch = .resumed)

def Tracks (deeds : List Deed) : Option DelegationRecord → Prop
  | none => deeds = []
  | some record => Standing deeds record

theorem Standing.changed (standing : Standing deeds record)
    (plain : ∀ creation, deed ≠ .created creation)
    (revoked : .revoked ∈ deed :: deeds ↔ status = .revoked)
    (switched : status ≠ .revoked → (status = .active ↔ deed = .resumed) ∧ deed.Switches) :
    Standing (deed :: deeds) { record with status } := by
  obtain ⟨creation, member⟩ := standing.created
  refine ⟨⟨creation, List.mem_cons_of_mem _ member⟩, ?_, revoked, ?_⟩
  · intro creation member
    cases member with
    | head => exact absurd rfl (plain creation)
    | tail _ member => exact standing.terms creation member
  · intro unrevoked
    obtain ⟨same, switches⟩ := switched unrevoked
    rw [same]
    constructor
    · intro resumed since switch last
      rcases last.cases_cons with ⟨_, _, rfl⟩ | ⟨still, _⟩
      · exact resumed
      · exact absurd switches still
    · intro every
      exact every [] deed (.here switches)

theorem DeedStep.tracks (step : DeedStep deed before record) (tracks : Tracks deeds before) :
    Standing (deed :: deeds) record := by
  cases step with
  | @created creation _ agent active expiry =>
    cases tracks
    refine ⟨⟨creation, List.mem_cons_self ..⟩, ?_, ?_, ?_⟩
    · intro other member
      cases List.mem_singleton.mp member
      exact ⟨agent, expiry⟩
    · simp [active]
    · simp only [active, true_iff]
      intro _ since switch last
      rcases last.cases_cons with ⟨switches, _⟩ | ⟨_, _, _, tail⟩
      · simp [Deed.Switches] at switches
      · exact tail.not_nil.elim
  | paused active =>
    have unrevoked : Deed.revoked ∉ deeds := by
      rw [tracks.revoked, active]
      decide
    exact tracks.changed (by simp) (by simp [unrevoked]) (by simp [Deed.Switches])
  | resumed paused =>
    have unrevoked : Deed.revoked ∉ deeds := by
      rw [tracks.revoked, paused]
      decide
    exact tracks.changed (by simp) (by simp [unrevoked]) (by simp [Deed.Switches])
  | revoked => exact tracks.changed (by simp) (by simp) (by simp)

structure Fresh (s : Storage) : Prop where
  initialized : s.admin.isSome = true
  free : ∀ id, s.next.toInt ≤ id.toInt → s.delegation id = none

theorem receipt_fresh {receipt : CallReceipt} (observed : Observed receipt)
    (fresh : Fresh receipt.before) : Fresh receipt.after := by
  cases observed with
  | failed => exact fresh
  | @accepted before _ _ _ _ _ transition =>
    cases transition with
    | initialized absent =>
      have present := fresh.initialized
      simp only [absent] at present
      cases present
    | @created _ _ _ _ _ _ _ following _ next =>
      refine ⟨fresh.initialized, fun id above => ?_⟩
      change following.toInt ≤ id.toInt at above
      have different : id ≠ before.next := by
        intro same
        rw [same] at above
        omega
      have free := fresh.free id (by dsimp only; omega)
      exact (Function.update_of_ne different _ _).trans free
    | @changed _ _ target _ _ found =>
      refine ⟨fresh.initialized, fun id above => ?_⟩
      have free := fresh.free id above
      have different : id ≠ target := by
        intro same
        subst same
        cases free.symm.trans found
      exact (Function.update_of_ne different _ _).trans free

theorem StatusChange.effect {env : Env} {call : Call} (change : StatusChange env id record call status) :
    ∃ deed, DeedStep deed (some record) { record with status } ∧
      ∀ other before value log after, deedOf other ⟨before, ⟨env, call⟩, .ok (value, log), after⟩ =
        if id = other then some deed else none := by
  cases change with
  | paused active => exact ⟨.paused, .paused active, fun _ _ _ _ _ => rfl⟩
  | resumed paused => exact ⟨.resumed, .resumed paused, fun _ _ _ _ _ => rfl⟩
  | revoked => exact ⟨.revoked, .revoked, fun _ _ _ _ _ => rfl⟩

theorem receipt_deed {receipt : CallReceipt} (observed : Observed receipt)
    (fresh : Fresh receipt.before) (id : U64) :
    (deedOf id receipt = none ∧ receipt.after.delegation id = receipt.before.delegation id) ∨
      ∃ deed record, deedOf id receipt = some deed ∧ receipt.after.delegation id = some record ∧
        DeedStep deed (receipt.before.delegation id) record := by
  cases observed with
  | failed => exact .inl ⟨by simp [deedOf], rfl⟩
  | @accepted before _ _ _ _ _ transition =>
    cases transition with
    | initialized => exact .inl ⟨rfl, rfl⟩
    | created _ _ expiry =>
      by_cases same : before.next = id
      · subst same
        refine .inr ⟨_, _, by simp [deedOf, created]; rfl, Function.update_self .., ?_⟩
        dsimp only
        rw [fresh.free _ (Int.le_refl _)]
        exact .created rfl rfl expiry
      · exact .inl ⟨by simp [deedOf, created, same], Function.update_of_ne (Ne.symm same) _ _⟩
    | @changed _ _ target _ _ found _ change =>
      obtain ⟨deed, taken, named⟩ := change.effect
      by_cases same : target = id
      · subst same
        refine .inr ⟨deed, _, (named ..).trans (if_pos rfl), Function.update_self .., ?_⟩
        dsimp only
        rw [found]
        exact taken
      · exact .inl ⟨(named ..).trans (if_neg same), Function.update_of_ne (Ne.symm same) _ _⟩

theorem receipt_tracks {receipt : CallReceipt} {past : List CallReceipt} (observed : Observed receipt)
    (fresh : Fresh receipt.before) (tracks : Tracks (deedsOf id past) (receipt.before.delegation id)) :
    Tracks (deedsOf id (receipt :: past)) (receipt.after.delegation id) := by
  rcases receipt_deed observed fresh id with ⟨silent, same⟩ | ⟨deed, record, done, after, taken⟩
  · rw [deedsOf, List.filterMap_cons_none silent, same]
    exact tracks
  · rw [deedsOf, List.filterMap_cons_some done, after]
    exact taken.tracks tracks

def initialized (admin : Address) : Storage :=
  { Storage.empty with admin := some admin, nextId := some (.lit 1) }

theorem history_tracks (admin : Address) (inputs : List (Invocation Call)) (id : U64) :
    Tracks (deedsOf id (Run.history step (initialized admin) inputs))
      ((Run.final step (initialized admin) inputs).delegation id) := by
  suffices both : Fresh (Run.final step (initialized admin) inputs) ∧
      Tracks (deedsOf id (Run.history step (initialized admin) inputs))
        ((Run.final step (initialized admin) inputs).delegation id) from both.2
  apply Run.invariant step (initialized admin) fun past s =>
    Fresh s ∧ Tracks (deedsOf id past) (s.delegation id)
  · exact ⟨⟨rfl, fun _ _ => rfl⟩, rfl⟩
  · intro past s input both
    have observed := observe_observed s input
    exact ⟨receipt_fresh observed both.1, receipt_tracks observed both.1 both.2⟩

structure AuthorizedBy (deeds : List Deed) (now : Env) (agentId : BytesN 32) : Prop where
  named : ∃ creation, .created creation ∈ deeds ∧ creation.agentId = agentId ∧
    now.sequence.toInt < creation.env.sequence.toInt + creation.ttlLedgers.toInt
  unrevoked : .revoked ∉ deeds
  resumed : ∀ since switch, LastMarked Deed.Switches deeds since switch → switch = .resumed

theorem tracks_authorized {now : Env} {agentId : BytesN 32} {s : Storage}
    (tracks : Tracks deeds (s.delegation id)) :
    isAuthorized now s id agentId = true ↔ AuthorizedBy deeds now agentId := by
  rw [isAuthorized_iff]
  cases found : s.delegation id with
  | none =>
    rw [found] at tracks
    cases tracks
    simp only [reduceCtorEq, false_and, exists_false, false_iff]
    intro authorized
    obtain ⟨_, member, _⟩ := authorized.named
    cases member
  | some record =>
    rw [found] at tracks
    constructor
    · intro authorized
      obtain ⟨_, ⟨⟩, active, unexpired, agent⟩ := authorized
      have unrevoked : Deed.revoked ∉ deeds := by
        rw [tracks.revoked, active]
        decide
      obtain ⟨creation, member⟩ := tracks.created
      obtain ⟨same, expiry⟩ := tracks.terms creation member
      refine ⟨⟨creation, member, same.symm.trans agent, expiry ▸ unexpired⟩, unrevoked, ?_⟩
      exact (tracks.switched (by simp [active])).mp active
    · intro authorized
      obtain ⟨⟨creation, member, agent, unexpired⟩, unrevoked, resumed⟩ := authorized
      obtain ⟨same, expiry⟩ := tracks.terms creation member
      have status : record.status ≠ .revoked := fun revoked => unrevoked (tracks.revoked.mpr revoked)
      exact ⟨record, rfl, (tracks.switched status).mpr resumed, expiry ▸ unexpired, same.trans agent⟩

/-- Authorization is exact, and it never comes back once it is revoked or expired. -/
theorem authorization_exact (admin : Address) (later earlier : List (Invocation Call)) (id : U64) :
    (∀ now agentId,
      isAuthorized now (Run.final step (initialized admin) earlier) id agentId = true ↔
        AuthorizedBy (deedsOf id (Run.history step (initialized admin) earlier)) now agentId) ∧
      ((.revoked ∈ deedsOf id (Run.history step (initialized admin) earlier)) →
        ∀ now agentId,
          isAuthorized now (Run.final step (initialized admin) (later ++ earlier)) id agentId = false) ∧
      ∀ (past now : Env) creation,
        .created creation ∈ deedsOf id (Run.history step (initialized admin) earlier) →
          creation.env.sequence.toInt + creation.ttlLedgers.toInt ≤ past.sequence.toInt →
            past.sequence.toInt ≤ now.sequence.toInt → ∀ agentId,
              isAuthorized now (Run.final step (initialized admin) (later ++ earlier)) id agentId =
                false := by
  have tracks := history_tracks admin (later ++ earlier) id
  have kept (deed : Deed) (member : deed ∈ deedsOf id (Run.history step (initialized admin) earlier)) :
      deed ∈ deedsOf id (Run.history step (initialized admin) (later ++ earlier)) := by
    rw [Run.history_append, deedsOf, List.filterMap_append]
    exact List.mem_append_right _ member
  refine ⟨fun now agentId => tracks_authorized (history_tracks admin earlier id), ?_, ?_⟩
  · intro revoked now agentId
    rw [Bool.eq_false_iff, ne_eq, tracks_authorized tracks]
    intro authorized
    exact authorized.unrevoked (kept _ revoked)
  · intro past now creation member expired ordered agentId
    rw [Bool.eq_false_iff, ne_eq, isAuthorized_iff]
    intro authorized
    obtain ⟨record, found, _, unexpired, _⟩ := authorized
    rw [found] at tracks
    have expiry := (tracks.terms creation (kept _ member)).2
    omega

end Delego.Registry
