import Delego.Gateway.Rotation
import Delego.Shared.Run
import Delego.Shared.Total
import Mathlib.Data.List.Nodup

set_option autoImplicit false

namespace Delego.Gateway

open Shared

abbrev AuthReceipt := Receipt System Input (Option Effect)

def final (service : AuthService) (inputs : List Input) : System :=
  Run.final service.step .initial inputs

def history (service : AuthService) (inputs : List Input) : List AuthReceipt :=
  Run.history service.step .initial inputs

def redemptions (tokenId : String) (past : List AuthReceipt) : List AuthReceipt :=
  past.filter fun receipt => Effect.redeems tokenId receipt.output

def unrevokedIn (familyId : String) (row : RefreshTokenRow) : Bool :=
  row.familyId = familyId && row.revokedAt.isNone

structure SingleUse (service : AuthService) (inputs : List Input) : Prop where
  redeemed : ∀ tokenId, (redemptions tokenId (history service inputs)).length ≤ 1
  unrevoked : ∀ familyId,
    ((final service inputs).database.tokens.filter (unrevokedIn familyId)).length ≤ 1

section Invariant

variable {service : AuthService} {past : List AuthReceipt} {system after : System}
  {tokens tokens' : List RefreshTokenRow} {calls : List Phase} {phase phase' : Phase}
  {drawn drawn' : Nat} {effect : Option Effect} {familyId tokenId : String}

def liveIn (familyId : String) (row : RefreshTokenRow) : Nat := if unrevokedIn familyId row then 1 else 0

def liveToken (tokenId : String) (row : RefreshTokenRow) : Nat := if revokesToken tokenId row then 1 else 0

def awaits (familyId : String) (phase : Phase) : Nat := if phase.pending = some familyId then 1 else 0

def replaces (tokenId : String) (phase : Phase) : Nat := if phase.redeeming = some tokenId then 1 else 0

def Drawn (service : AuthService) (drawn : Nat) (familyId : String) : Prop :=
  ∃ number < drawn, familyId = service.randomUUID number

/-- Each family has one token that is live or about to be created, and each token is live, being
replaced, or redeemed. -/
structure Balanced (service : AuthService) (past : List AuthReceipt) (tokens : List RefreshTokenRow)
    (calls : List Phase) (drawn : Nat) : Prop where
  unique : (tokens.map RefreshTokenRow.id).Nodup
  matched : ∀ phase ∈ calls, phase.Matched tokens
  stored : ∀ row ∈ tokens, Drawn service drawn row.familyId
  awaited : ∀ phase ∈ calls, ∀ familyId ∈ phase.pending, Drawn service drawn familyId
  family : ∀ familyId, total (liveIn familyId) tokens + total (awaits familyId) calls ≤ 1
  token : ∀ tokenId, total (liveToken tokenId) tokens + total (replaces tokenId) calls +
    (redemptions tokenId past).length ≤ 1
  known : ∀ tokenId, redemptions tokenId past ≠ [] → ∃ row ∈ tokens, row.id = tokenId

theorem revokesToken_iff {row : RefreshTokenRow} :
    revokesToken tokenId row = true ↔ row.id = tokenId ∧ row.revokedAt = none := by
  simp [revokesToken]

theorem liveIn_le_one {row : RefreshTokenRow} : liveIn familyId row ≤ 1 := by
  simp only [liveIn]
  split <;> decide

theorem liveToken_le_one {row : RefreshTokenRow} : liveToken tokenId row ≤ 1 := by
  simp only [liveToken]
  split <;> decide

theorem Drawn.later (known : Drawn service drawn familyId) (later : drawn ≤ drawn') :
    Drawn service drawn' familyId := by
  obtain ⟨number, less, same⟩ := known
  exact ⟨number, less.trans_le later, same⟩

theorem revoke_ids (chosen : RefreshTokenRow → Bool) (revokedAt : Nat) :
    (revoke chosen revokedAt tokens).map RefreshTokenRow.id = tokens.map RefreshTokenRow.id := by
  rw [revoke, List.map_map]
  refine List.map_congr_left fun row _ => ?_
  simp only [Function.comp_apply]
  split <;> rfl

theorem mem_of_revoke {chosen : RefreshTokenRow → Bool} {revokedAt : Nat} {row : RefreshTokenRow}
    (member : row ∈ revoke chosen revokedAt tokens) :
    ∃ old ∈ tokens, old.id = row.id ∧ old.familyId = row.familyId := by
  obtain ⟨old, present, rfl⟩ := List.mem_map.mp member
  refine ⟨old, present, ?_⟩
  split
  · exact ⟨rfl, rfl⟩
  · exact ⟨rfl, rfl⟩

def Kept (tokens tokens' : List RefreshTokenRow) : Prop :=
  ∀ row ∈ tokens, ∃ row' ∈ tokens', row'.id = row.id ∧ row'.familyId = row.familyId

theorem revoke_kept (chosen : RefreshTokenRow → Bool) (revokedAt : Nat) :
    Kept tokens (revoke chosen revokedAt tokens) := fun _ => mem_revoke

theorem append_kept (row : RefreshTokenRow) : Kept tokens (tokens ++ [row]) :=
  fun old member => ⟨old, List.mem_append_left _ member, rfl, rfl⟩

theorem Kept.matched (kept : Kept tokens tokens') (matched : phase.Matched tokens) :
    phase.Matched tokens' := by
  cases phase with
  | revokeToken record revokedAt =>
    obtain ⟨row, member, id, family⟩ := matched
    obtain ⟨row', member', id', family'⟩ := kept row member
    exact ⟨row', member', id'.trans id, family'.trans family⟩
  | findUser record =>
    obtain ⟨row, member, id⟩ := matched
    obtain ⟨row', member', id', _⟩ := kept row member
    exact ⟨row', member', id'.trans id⟩
  | createToken purpose accessToken secret row =>
    cases purpose with
    | refresh tokenId =>
      obtain ⟨row, member, id⟩ := matched
      obtain ⟨row', member', id', _⟩ := kept row member
      exact ⟨row', member', id'.trans id⟩
    | register | login => trivial
  | findRegistered | createUser | findLogin | findToken | revokeFamily | returned => trivial

theorem Phase.Matched.redeeming (matched : phase.Matched tokens)
    (redeeming : phase.redeeming = some tokenId) : ∃ row ∈ tokens, row.id = tokenId := by
  cases phase with
  | findUser record =>
    cases redeeming
    exact matched
  | createToken purpose accessToken secret row =>
    cases purpose with
    | refresh tokenId =>
      cases redeeming
      exact matched
    | register | login => cases redeeming
  | findRegistered | createUser | findLogin | findToken | revokeToken | revokeFamily | returned =>
    cases redeeming

section Revoking

variable {measure : RefreshTokenRow → Nat} {chosen : RefreshTokenRow → Bool} {revokedAt : Nat}

theorem total_revoke_le
    (gone : ∀ (row : RefreshTokenRow) revokedAt, measure { row with revokedAt := some revokedAt } = 0) :
    total measure (revoke chosen revokedAt tokens) ≤ total measure tokens := by
  rw [revoke, total_map]
  refine total_le fun row _ => ?_
  split
  · rw [gone]
    exact Nat.zero_le _
  · exact le_rfl

theorem total_revoke_lt
    (gone : ∀ (row : RefreshTokenRow) revokedAt, measure { row with revokedAt := some revokedAt } = 0)
    {row : RefreshTokenRow} (member : row ∈ tokens) (revoked : chosen row = true)
    (counts : 0 < measure row) :
    total measure (revoke chosen revokedAt tokens) < total measure tokens := by
  rw [revoke, total_map]
  refine total_lt (fun row _ => ?_) ⟨row, member, ?_⟩
  · split
    · rw [gone]
      exact Nat.zero_le _
    · exact le_rfl
  · rw [if_pos revoked, gone]
    exact counts

theorem liveIn_revoked (familyId : String) (row : RefreshTokenRow) (revokedAt : Nat) :
    liveIn familyId { row with revokedAt := some revokedAt } = 0 := by
  simp [liveIn, unrevokedIn]

theorem liveToken_revoked (tokenId : String) (row : RefreshTokenRow) (revokedAt : Nat) :
    liveToken tokenId { row with revokedAt := some revokedAt } = 0 := by
  simp [liveToken, revokesToken]

end Revoking

theorem Balanced.turned {id : Nat} (balanced : Balanced service past tokens calls drawn)
    (found : calls[id]? = some phase) (receipt : AuthReceipt) (output : receipt.output = effect)
    (unique : (tokens'.map RefreshTokenRow.id).Nodup) (kept : Kept tokens tokens')
    (matched : phase'.Matched tokens') (later : drawn ≤ drawn')
    (stored : ∀ row ∈ tokens', Drawn service drawn' row.familyId)
    (awaited : ∀ familyId ∈ phase'.pending, Drawn service drawn' familyId)
    (family : ∀ familyId, total (liveIn familyId) tokens' + total (awaits familyId) calls +
      awaits familyId phase' ≤ 1 + awaits familyId phase)
    (token : ∀ tokenId, total (liveToken tokenId) tokens' + total (replaces tokenId) calls +
      replaces tokenId phase' + (redemptions tokenId (receipt :: past)).length ≤
        1 + replaces tokenId phase)
    (known : ∀ tokenId, Effect.redeems tokenId effect = true → ∃ row ∈ tokens', row.id = tokenId) :
    Balanced service (receipt :: past) tokens' (calls.set id phase') drawn' := by
  refine ⟨unique, ?_, stored, ?_, ?_, ?_, ?_⟩
  · intro other member
    rcases List.mem_or_eq_of_mem_set member with old | rfl
    · exact kept.matched (balanced.matched other old)
    · exact matched
  · intro other member familyId pending
    rcases List.mem_or_eq_of_mem_set member with old | rfl
    · exact (balanced.awaited other old familyId pending).later later
    · exact awaited familyId pending
  · intro familyId
    have moved := total_set (awaits familyId) phase' found
    have bound := family familyId
    omega
  · intro tokenId
    have moved := total_set (replaces tokenId) phase' found
    have bound := token tokenId
    omega
  · intro tokenId redeemed
    cases now : Effect.redeems tokenId effect with
    | true => exact known tokenId now
    | false =>
      have before : redemptions tokenId past ≠ [] := by
        rw [← output] at now
        simpa [redemptions, now] using redeemed
      obtain ⟨row, member, same⟩ := balanced.known tokenId before
      obtain ⟨row', member', same', _⟩ := kept row member
      exact ⟨row', member', same'.trans same⟩

theorem revoke_stored {chosen : RefreshTokenRow → Bool} {revokedAt : Nat}
    (stored : ∀ row ∈ tokens, Drawn service drawn row.familyId) :
    ∀ row ∈ revoke chosen revokedAt tokens, Drawn service drawn row.familyId := by
  intro row member
  obtain ⟨old, present, _, family⟩ := mem_of_revoke member
  rw [← family]
  exact stored old present

theorem Balanced.undrawn {number : Nat} (balanced : Balanced service past tokens calls drawn)
    (later : drawn ≤ number) : total (liveIn (service.randomUUID number)) tokens = 0 ∧
      total (awaits (service.randomUUID number)) calls = 0 := by
  have apart (family : Drawn service drawn (service.randomUUID number)) : False := by
    obtain ⟨other, less, same⟩ := family
    have equal := service.randomUUID.injective same
    omega
  constructor
  · refine total_zero fun row member => ?_
    have other : row.familyId ≠ service.randomUUID number :=
      fun same => apart (same ▸ balanced.stored row member)
    simp [liveIn, unrevokedIn, other]
  · refine total_zero fun phase member => if_neg fun pending => ?_
    exact apart (balanced.awaited phase member _ pending)

theorem Balanced.unknown (balanced : Balanced service past tokens calls drawn)
    (free : ∀ row ∈ tokens, row.id ≠ tokenId) :
    total (liveToken tokenId) tokens = 0 ∧ total (replaces tokenId) calls = 0 ∧
      redemptions tokenId past = [] := by
  have stored (known : ∃ row ∈ tokens, row.id = tokenId) : False := by
    obtain ⟨row, member, same⟩ := known
    exact free row member same
  refine ⟨?_, ?_, ?_⟩
  · refine total_zero fun row member => ?_
    simp [liveToken, revokesToken, free row member]
  · refine total_zero fun phase member => if_neg fun replacing => ?_
    exact stored ((balanced.matched phase member).redeeming replacing)
  · by_contra redeemed
    exact stored (balanced.known tokenId redeemed)

theorem redemptions_quiet {receipt : AuthReceipt} (output : receipt.output = effect)
    (quiet : Effect.redeems tokenId effect = false) :
    redemptions tokenId (receipt :: past) = redemptions tokenId past := by
  rw [← output] at quiet
  simp [redemptions, quiet]

theorem awaits_idle (idle : phase.pending = none) : awaits familyId phase = 0 := by
  simp [awaits, idle]

theorem replaces_lost (lost : phase.redeeming = none) : replaces tokenId phase = 0 := by
  simp [replaces, lost]

theorem Balanced.spending {record : RefreshTokenRow} {revokedAt : Nat}
    (balanced : Balanced service past tokens calls drawn)
    (matched : (Phase.revokeToken record revokedAt).Matched tokens)
    (live : tokens.any (revokesToken record.id) = true) :
    ∃ row ∈ tokens, revokesToken record.id row = true ∧ row.familyId = record.familyId := by
  obtain ⟨row, member, chosen⟩ := List.any_eq_true.mp live
  obtain ⟨read, present, id, family⟩ := matched
  have same : row.id = read.id := by rw [id, (revokesToken_iff.mp chosen).1]
  have equal : row = read := List.inj_on_of_nodup_map balanced.unique member present same
  exact ⟨row, member, chosen, by rw [equal, family]⟩

theorem Balanced.revoking {id : Nat} {chosen : RefreshTokenRow → Bool} {revokedAt : Nat}
    (balanced : Balanced service past tokens calls drawn) (found : calls[id]? = some phase)
    (receipt : AuthReceipt) (output : receipt.output = effect)
    (quiet : ∀ tokenId, Effect.redeems tokenId effect = false) (idle : phase'.pending = none)
    (lost : phase'.redeeming = none) (matched : phase'.Matched (revoke chosen revokedAt tokens))
    (later : drawn ≤ drawn') :
    Balanced service (receipt :: past) (revoke chosen revokedAt tokens) (calls.set id phase') drawn' := by
  refine balanced.turned found receipt output ?_ (revoke_kept _ _) matched later ?_ ?_ ?_ ?_ ?_
  · rw [revoke_ids]
    exact balanced.unique
  · exact revoke_stored fun row member => (balanced.stored row member).later later
  · intro familyId pending
    rw [idle] at pending
    cases pending
  · intro familyId
    rw [awaits_idle idle]
    have less : total (liveIn familyId) (revoke chosen revokedAt tokens) ≤ _ :=
      total_revoke_le (liveIn_revoked familyId)
    have bound := balanced.family familyId
    omega
  · intro tokenId
    rw [replaces_lost lost, redemptions_quiet output (quiet tokenId)]
    have less : total (liveToken tokenId) (revoke chosen revokedAt tokens) ≤ _ :=
      total_revoke_le (liveToken_revoked tokenId)
    have bound := balanced.token tokenId
    omega
  · intro tokenId redeemed
    rw [quiet] at redeemed
    cases redeemed

theorem awaits_own (pending : phase.pending = some familyId) : awaits familyId phase = 1 := if_pos pending

theorem awaits_other {other : String} (pending : phase.pending = some other) (apart : other ≠ familyId) :
    awaits familyId phase = 0 :=
  if_neg fun same => apart (Option.some.inj (pending.symm.trans same))

theorem replaces_own (redeeming : phase.redeeming = some tokenId) : replaces tokenId phase = 1 :=
  if_pos redeeming

theorem replaces_other {other : String} (redeeming : phase.redeeming = some other)
    (apart : other ≠ tokenId) : replaces tokenId phase = 0 :=
  if_neg fun same => apart (Option.some.inj (redeeming.symm.trans same))

section Turns

variable {id : Nat} {receipt : AuthReceipt} {record row : RefreshTokenRow} {accessToken secret : String}
  {purpose : Purpose}

theorem Balanced.spent {revokedAt : Nat} (balanced : Balanced service past tokens calls drawn)
    (found : calls[id]? = some (.revokeToken record revokedAt)) (output : receipt.output = none)
    (live : tokens.any (revokesToken record.id) = true) :
    Balanced service (receipt :: past) (revoke (revokesToken record.id) revokedAt tokens)
      (calls.set id (.findUser record)) drawn := by
  have matched := balanced.matched _ (List.mem_of_getElem? found)
  obtain ⟨row, stored, chosen, same⟩ := balanced.spending matched live
  refine balanced.turned found receipt output ?_ (revoke_kept _ _) ?_ le_rfl ?_ ?_ ?_ ?_ nofun
  · rw [revoke_ids]
    exact balanced.unique
  · obtain ⟨read, present, id, _⟩ := matched
    obtain ⟨kept, present, id', _⟩ := revoke_kept (revokesToken record.id) revokedAt read present
    exact ⟨kept, present, id'.trans id⟩
  · exact revoke_stored balanced.stored
  · intro familyId pending
    cases pending
    rw [← same]
    exact balanced.stored row stored
  · intro familyId
    have bound := balanced.family familyId
    by_cases own : record.familyId = familyId
    · have counts : 0 < liveIn familyId row := by
        simp [liveIn, unrevokedIn, same, own, (revokesToken_iff.mp chosen).2]
      have less : total (liveIn familyId) (revoke (revokesToken record.id) revokedAt tokens) < _ :=
        total_revoke_lt (liveIn_revoked familyId) stored chosen counts
      have one : awaits familyId (.findUser record) = 1 := awaits_own (congrArg some own)
      omega
    · have less : total (liveIn familyId) (revoke (revokesToken record.id) revokedAt tokens) ≤ _ :=
        total_revoke_le (liveIn_revoked familyId)
      have none : awaits familyId (.findUser record) = 0 := awaits_other rfl own
      omega
  · intro tokenId
    rw [redemptions_quiet output rfl]
    have bound := balanced.token tokenId
    by_cases own : record.id = tokenId
    · have counts : 0 < liveToken tokenId row := by
        rw [← own]
        simp [liveToken, chosen]
      have less : total (liveToken tokenId) (revoke (revokesToken record.id) revokedAt tokens) < _ :=
        total_revoke_lt (liveToken_revoked tokenId) stored chosen counts
      have one : replaces tokenId (.findUser record) = 1 := replaces_own (congrArg some own)
      omega
    · have less : total (liveToken tokenId) (revoke (revokesToken record.id) revokedAt tokens) ≤ _ :=
        total_revoke_le (liveToken_revoked tokenId)
      have none : replaces tokenId (.findUser record) = 0 := replaces_other rfl own
      omega

theorem Balanced.replacing (balanced : Balanced service past tokens calls drawn)
    (found : calls[id]? = some (.findUser record)) (output : receipt.output = none)
    (family : row.familyId = record.familyId) (later : drawn ≤ drawn') :
    Balanced service (receipt :: past) tokens
      (calls.set id (.createToken (.refresh record.id) accessToken secret row)) drawn' := by
  have member := List.mem_of_getElem? found
  have read : (Phase.findUser record).Matched tokens := balanced.matched _ member
  refine balanced.turned found receipt output balanced.unique (fun row member => ⟨row, member, rfl, rfl⟩)
    read later (fun row member => (balanced.stored row member).later later)
    ?_ ?_ ?_ nofun
  · intro familyId pending
    refine (balanced.awaited _ member familyId ?_).later later
    cases pending
    exact congrArg some family.symm
  · intro familyId
    have same : awaits familyId (.createToken (.refresh record.id) accessToken secret row) =
        awaits familyId (.findUser record) := by simp [awaits, Phase.pending, family]
    have bound := balanced.family familyId
    omega
  · intro tokenId
    rw [redemptions_quiet output rfl]
    have same : replaces tokenId (.createToken (.refresh record.id) accessToken secret row) =
        replaces tokenId (.findUser record) := rfl
    have bound := balanced.token tokenId
    omega

theorem Balanced.opened (balanced : Balanced service past tokens calls drawn)
    (found : calls[id]? = some phase) (output : receipt.output = none)
    (new : ∀ tokenId, purpose ≠ .refresh tokenId)
    (fresh : ∃ number, drawn ≤ number ∧ number < drawn' ∧ row.familyId = service.randomUUID number) :
    Balanced service (receipt :: past) tokens
      (calls.set id (.createToken purpose accessToken secret row)) drawn' := by
  obtain ⟨number, later, drawn, family⟩ := fresh
  have lost : (Phase.createToken purpose accessToken secret row).redeeming = none := by
    cases purpose with
    | refresh tokenId => exact absurd rfl (new tokenId)
    | register | login => rfl
  have matched : (Phase.createToken purpose accessToken secret row).Matched tokens := by
    cases purpose with
    | refresh tokenId => exact absurd rfl (new tokenId)
    | register | login => trivial
  have after : _ ≤ drawn' := later.trans drawn.le
  refine balanced.turned found receipt output balanced.unique (fun row member => ⟨row, member, rfl, rfl⟩)
    matched after (fun row member => (balanced.stored row member).later after) ?_ ?_ ?_ nofun
  · intro familyId pending
    cases pending
    exact ⟨number, drawn, family⟩
  · intro familyId
    have bound := balanced.family familyId
    by_cases own : row.familyId = familyId
    · obtain ⟨quiet, unawaited⟩ := balanced.undrawn later
      rw [← family, own] at quiet unawaited
      have one : awaits familyId (.createToken purpose accessToken secret row) = 1 :=
        awaits_own (congrArg some own)
      omega
    · have none : awaits familyId (.createToken purpose accessToken secret row) = 0 :=
        awaits_other rfl own
      omega
  · intro tokenId
    rw [redemptions_quiet output rfl, replaces_lost lost]
    have bound := balanced.token tokenId
    omega

theorem redeems_held
    (told : effect = none ∨
      ∃ tokenId, purpose = .refresh tokenId ∧ effect = some (.redeemed tokenId row.familyId))
    (redeems : Effect.redeems tokenId effect = true) :
    (Phase.createToken purpose accessToken secret row).redeeming = some tokenId := by
  rcases told with rfl | ⟨used, rfl, rfl⟩
  · cases redeems
  · exact congrArg some (of_decide_eq_true redeems)

theorem redemptions_more {receipt : AuthReceipt} (output : receipt.output = effect)
    (redeems : Effect.redeems tokenId effect = true) :
    (redemptions tokenId (receipt :: past)).length = (redemptions tokenId past).length + 1 := by
  rw [← output] at redeems
  simp [redemptions, redeems]

theorem Balanced.created {result : Except String Reply}
    (balanced : Balanced service past tokens calls drawn)
    (found : calls[id]? = some (.createToken purpose accessToken secret row))
    (output : receipt.output = effect) (free : ∀ other ∈ tokens, other.id ≠ row.id)
    (told : effect = none ∨
      ∃ tokenId, purpose = .refresh tokenId ∧ effect = some (.redeemed tokenId row.familyId)) :
    Balanced service (receipt :: past) (tokens ++ [row]) (calls.set id (.returned result)) drawn := by
  have member := List.mem_of_getElem? found
  have held (tokenId : String) (redeems : Effect.redeems tokenId effect = true) :
      ∃ other ∈ tokens, other.id = tokenId :=
    (balanced.matched _ member).redeeming (redeems_held told redeems)
  refine balanced.turned found receipt output ?_ (append_kept row) trivial le_rfl ?_ nofun ?_ ?_ ?_
  · rw [List.map_append]
    refine List.nodup_append.mpr ⟨balanced.unique, List.nodup_singleton _, ?_⟩
    intro id member id' own same
    obtain ⟨other, present, rfl⟩ := List.mem_map.mp member
    exact free other present (same.trans (List.mem_singleton.mp own))
  · intro other member
    rcases List.mem_append.mp member with old | new
    · exact balanced.stored other old
    · rw [List.mem_singleton.mp new]
      exact balanced.awaited _ (List.mem_of_getElem? found) _ rfl
  · intro familyId
    have bound := balanced.family familyId
    have new : liveIn familyId row ≤
        awaits familyId (.createToken purpose accessToken secret row) := by
      by_cases own : row.familyId = familyId
      · have one : awaits familyId (.createToken purpose accessToken secret row) = 1 :=
          awaits_own (congrArg some own)
        rw [one]
        exact liveIn_le_one
      · simp [liveIn, unrevokedIn, own]
    have idle : awaits familyId (.returned result) = 0 := awaits_idle rfl
    rw [total_append]
    omega
  · intro tokenId
    have lost : replaces tokenId (.returned result) = 0 := replaces_lost rfl
    rw [total_append]
    by_cases own : row.id = tokenId
    · obtain ⟨dead, unheld, unredeemed⟩ := balanced.unknown fun other member same =>
        free other member (same.trans own.symm)
      have quiet : Effect.redeems tokenId effect = false := by
        by_contra redeems
        obtain ⟨other, present, same⟩ := held tokenId (Bool.eq_true_of_not_eq_false redeems)
        exact free other present (same.trans own.symm)
      have one : liveToken tokenId row ≤ 1 := liveToken_le_one
      rw [redemptions_quiet output quiet, unredeemed, List.length_nil]
      omega
    · have none : liveToken tokenId row = 0 := by simp [liveToken, revokesToken, own]
      have bound := balanced.token tokenId
      cases redeems : Effect.redeems tokenId effect with
      | false =>
        rw [redemptions_quiet output redeems]
        omega
      | true =>
        have one : replaces tokenId (.createToken purpose accessToken secret row) = 1 :=
          replaces_own (redeems_held told redeems)
        have more : (redemptions tokenId (receipt :: past)).length =
            (redemptions tokenId past).length + 1 := redemptions_more output redeems
        omega
  · intro tokenId redeems
    obtain ⟨other, present, same⟩ := held tokenId redeems
    exact ⟨other, List.mem_append_left _ present, same⟩

end Turns

theorem Turn.balanced {id : Nat} (balanced : Balanced service past tokens calls drawn)
    (found : calls[id]? = some phase)
    (turn : Turn service tokens drawn phase tokens' phase' drawn' effect)
    (receipt : AuthReceipt) (output : receipt.output = effect) :
    Balanced service (receipt :: past) tokens' (calls.set id phase') drawn' := by
  cases turn with
  | idle chosen revokedAt idle lost matched later =>
    exact balanced.revoking found receipt output (fun _ => rfl) idle lost matched later
  | revoked familyId revokedAt result revoking =>
    exact balanced.revoking found receipt output (fun _ => rfl) rfl rfl trivial le_rfl
  | spent record revokedAt revoking live =>
    subst revoking
    exact balanced.spent found output live
  | passed record row accessToken secret drawn' finding family later =>
    subst finding
    exact balanced.replacing found output family later
  | opened purpose row accessToken secret drawn' new fresh => exact balanced.opened found output new fresh
  | created purpose row accessToken secret result effect creating free told =>
    subst creating
    exact balanced.created found output free told

theorem Balanced.called (balanced : Balanced service past tokens calls drawn) (receipt : AuthReceipt)
    (output : receipt.output = none) (idle : phase.pending = none) (lost : phase.redeeming = none)
    (matched : phase.Matched tokens) :
    Balanced service (receipt :: past) tokens (calls ++ [phase]) drawn := by
  have quiet (tokenId : String) : redemptions tokenId (receipt :: past) = redemptions tokenId past :=
    redemptions_quiet output rfl
  refine ⟨balanced.unique, ?_, balanced.stored, ?_, ?_, ?_, ?_⟩
  · intro other member
    rcases List.mem_append.mp member with old | new
    · exact balanced.matched other old
    · rw [List.mem_singleton.mp new]
      exact matched
  · intro other member familyId pending
    rcases List.mem_append.mp member with old | new
    · exact balanced.awaited other old familyId pending
    · rw [List.mem_singleton.mp new, idle] at pending
      cases pending
  · intro familyId
    rw [total_append, awaits_idle idle]
    exact balanced.family familyId
  · intro tokenId
    rw [total_append, replaces_lost lost, quiet]
    exact balanced.token tokenId
  · intro tokenId redeemed
    rw [quiet] at redeemed
    exact balanced.known tokenId redeemed

theorem Balanced.passed (balanced : Balanced service past tokens calls drawn) (receipt : AuthReceipt)
    (output : receipt.output = none) : Balanced service (receipt :: past) tokens calls drawn := by
  have quiet (tokenId : String) : redemptions tokenId (receipt :: past) = redemptions tokenId past :=
    redemptions_quiet output rfl
  refine ⟨balanced.unique, balanced.matched, balanced.stored, balanced.awaited, balanced.family, ?_, ?_⟩
  · intro tokenId
    rw [quiet]
    exact balanced.token tokenId
  · intro tokenId redeemed
    rw [quiet] at redeemed
    exact balanced.known tokenId redeemed

theorem Move.balanced
    (balanced : Balanced service past system.database.tokens system.calls system.drawn)
    (move : Move service system effect after) (receipt : AuthReceipt) (output : receipt.output = effect) :
    Balanced service (receipt :: past) after.database.tokens after.calls after.drawn := by
  cases move with
  | stays => exact balanced.passed receipt output
  | called phase idle lost matched => exact balanced.called receipt output idle lost matched
  | turned id phase phase' database drawn effect found turn =>
    exact turn.balanced balanced found receipt output

theorem balanced (service : AuthService) (inputs : List Input) :
    Balanced service (history service inputs) (final service inputs).database.tokens
      (final service inputs).calls (final service inputs).drawn := by
  refine Run.invariant service.step .initial (fun past system =>
    Balanced service past system.database.tokens system.calls system.drawn) ?_ ?_ inputs
  · exact ⟨List.nodup_nil, List.forall_mem_nil _, nofun, List.forall_mem_nil _, fun _ => Nat.zero_le _,
      fun _ => Nat.zero_le _, fun _ redeemed => absurd rfl redeemed⟩
  · intro past system input balanced
    exact (step_move balanced.matched input).balanced balanced _ rfl

end Invariant

/-- Each token is redeemed once at most, and each family has one unrevoked token at most. -/
theorem refresh_tokens_single_use (service : AuthService) (inputs : List Input) :
    SingleUse service inputs := by
  constructor
  · intro tokenId
    have bound := (balanced service inputs).token tokenId
    omega
  · intro familyId
    have bound := (balanced service inputs).family familyId
    rw [← total_filter]
    exact (Nat.le_add_right _ _).trans bound

end Delego.Gateway
