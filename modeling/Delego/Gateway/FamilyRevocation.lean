import Delego.Gateway.AccessTokens
import Delego.Gateway.SingleUse

set_option autoImplicit false

namespace Delego.Gateway

open Shared

def Revoked (service : AuthService) (familyId : String) (inputs : List Input) : Prop :=
  ∃ input older, input :: older <:+ inputs ∧ Drawn service (final service older).drawn familyId ∧
    (service.step (final service older) input).1 = some (.familyRevoked familyId)

/-- Once a revocation has completed, the family has no unrevoked token and no token of it is redeemed. -/
structure RevocationFinal (service : AuthService) (familyId : String) (inputs : List Input) : Prop where
  unrevoked : ∀ older, older <:+ inputs → Revoked service familyId older →
    ∀ row ∈ (final service older).database.tokens, row.familyId = familyId → row.revokedAt ≠ none
  redeemed : ∀ input older, input :: older <:+ inputs → Revoked service familyId older →
    ∀ tokenId, (service.step (final service older) input).1 ≠ some (.redeemed tokenId familyId)

def Undisturbed (service : AuthService) (familyId : String) (inputs : List Input) : Prop :=
  ∀ input older, input :: older <:+ inputs →
    (service.step (final service older) input).1 = some (.familyRevoked familyId) →
    ∀ phase ∈ (final service older).calls, phase.pending ≠ some familyId

section Ending

variable {service : AuthService} {past : List AuthReceipt} {system after : System}
  {tokens tokens' : List RefreshTokenRow} {calls : List Phase} {phase phase' : Phase}
  {drawn drawn' : Nat} {effect : Option Effect} {familyId : String}

structure Ended (service : AuthService) (familyId : String) (tokens : List RefreshTokenRow)
    (calls : List Phase) (drawn : Nat) : Prop where
  dead : ∀ row ∈ tokens, row.familyId = familyId → row.revokedAt ≠ none
  idle : ∀ phase ∈ calls, phase.pending ≠ some familyId
  drawn : Drawn service drawn familyId

theorem revoke_dead {chosen : RefreshTokenRow → Bool} {revokedAt : Nat}
    (dead : ∀ row ∈ tokens, row.familyId = familyId → chosen row = false → row.revokedAt ≠ none) :
    ∀ row ∈ revoke chosen revokedAt tokens, row.familyId = familyId → row.revokedAt ≠ none := by
  intro row member family
  obtain ⟨old, present, rfl⟩ := List.mem_map.mp member
  cases taken : chosen old with
  | true => simp
  | false =>
    simp only [taken, Bool.false_eq_true, if_false] at family ⊢
    exact dead old present family taken

theorem Ended.turned {id : Nat} (ended : Ended service familyId tokens calls drawn)
    (dead : ∀ row ∈ tokens', row.familyId = familyId → row.revokedAt ≠ none)
    (idle : phase'.pending ≠ some familyId) (later : drawn ≤ drawn') :
    Ended service familyId tokens' (calls.set id phase') drawn' := by
  refine ⟨dead, ?_, ended.drawn.later later⟩
  intro other member
  rcases List.mem_or_eq_of_mem_set member with old | rfl
  · exact ended.idle other old
  · exact idle

theorem Turn.ended {id : Nat} (balanced : Balanced service past tokens calls drawn)
    (ended : Ended service familyId tokens calls drawn) (found : calls[id]? = some phase)
    (turn : Turn service tokens drawn phase tokens' phase' drawn' effect) :
    Ended service familyId tokens' (calls.set id phase') drawn' ∧
      ∀ tokenId, effect ≠ some (.redeemed tokenId familyId) := by
  have member := List.mem_of_getElem? found
  have apart := ended.idle phase member
  have still {chosen : RefreshTokenRow → Bool} {revokedAt : Nat} :
      ∀ row ∈ revoke chosen revokedAt tokens, row.familyId = familyId → row.revokedAt ≠ none :=
    revoke_dead fun row present family _ => ended.dead row present family
  cases turn with
  | idle chosen revokedAt idle lost matched later =>
    exact ⟨ended.turned still (by simp [idle]) later, nofun⟩
  | revoked family revokedAt result revoking =>
    exact ⟨ended.turned still nofun le_rfl, nofun⟩
  | spent record revokedAt revoking live =>
    subst revoking
    obtain ⟨row, stored, chosen, same⟩ := balanced.spending (balanced.matched _ member) live
    refine ⟨ended.turned still ?_ le_rfl, nofun⟩
    intro pending
    have own : row.familyId = familyId := same.trans (Option.some.inj pending)
    exact ended.dead row stored own (revokesToken_iff.mp chosen).2
  | passed record row accessToken secret drawn' finding family later =>
    subst finding
    refine ⟨ended.turned ended.dead ?_ later, nofun⟩
    intro pending
    exact apart ((congrArg some family.symm).trans pending)
  | opened purpose row accessToken secret drawn' new fresh =>
    obtain ⟨number, later, less, family⟩ := fresh
    refine ⟨ended.turned ended.dead ?_ (later.trans less.le), nofun⟩
    intro pending
    obtain ⟨other, before, same⟩ := ended.drawn
    have drawnTwice : service.randomUUID number = service.randomUUID other :=
      family.symm.trans ((Option.some.inj pending).trans same)
    have equal := service.randomUUID.injective drawnTwice
    omega
  | created purpose row accessToken secret result effect creating free told =>
    subst creating
    have other : row.familyId ≠ familyId := fun same => apart (congrArg some same)
    refine ⟨ended.turned ?_ nofun le_rfl, ?_⟩
    · intro stored member family
      rcases List.mem_append.mp member with old | new
      · exact ended.dead stored old family
      · rw [List.mem_singleton.mp new] at family
        exact absurd family other
    · intro tokenId redeemed
      rcases told with rfl | ⟨used, _, rfl⟩
      · cases redeemed
      · cases redeemed
        exact other rfl

theorem Move.ended (balanced : Balanced service past system.database.tokens system.calls system.drawn)
    (ended : Ended service familyId system.database.tokens system.calls system.drawn)
    (move : Move service system effect after) :
    Ended service familyId after.database.tokens after.calls after.drawn ∧
      ∀ tokenId, effect ≠ some (.redeemed tokenId familyId) := by
  cases move with
  | stays => exact ⟨ended, nofun⟩
  | called phase idle lost matched =>
    refine ⟨⟨ended.dead, ?_, ended.drawn⟩, nofun⟩
    intro other member
    rcases List.mem_append.mp member with old | new
    · exact ended.idle other old
    · rw [List.mem_singleton.mp new, idle]
      nofun
  | turned id phase phase' database drawn effect found turn => exact turn.ended balanced ended found

theorem Turn.dead (turn : Turn service tokens drawn phase tokens' phase' drawn' effect)
    (revoked : effect = some (.familyRevoked familyId)) :
    (∀ row ∈ tokens', row.familyId = familyId → row.revokedAt ≠ none) ∧ phase'.pending = none ∧
      drawn' = drawn := by
  cases turn with
  | revoked family revokedAt result revoking =>
    cases revoked
    refine ⟨revoke_dead fun row _ same spared => ?_, rfl, rfl⟩
    simp [same] at spared
  | created purpose row accessToken secret result effect creating free told =>
    rcases told with rfl | ⟨_, _, rfl⟩
    · cases revoked
    · cases revoked
  | idle | spent | passed | opened => cases revoked

theorem Move.ends (undisturbed : ∀ phase ∈ system.calls, phase.pending ≠ some familyId)
    (opened : Drawn service system.drawn familyId) (move : Move service system effect after)
    (revoked : effect = some (.familyRevoked familyId)) :
    Ended service familyId after.database.tokens after.calls after.drawn := by
  cases move with
  | stays | called => cases revoked
  | turned id phase phase' database drawn effect found turn =>
    obtain ⟨dead, idle, rfl⟩ := turn.dead revoked
    refine ⟨dead, ?_, opened⟩
    intro other member
    rcases List.mem_or_eq_of_mem_set member with old | rfl
    · exact undisturbed other old
    · simp [idle]

variable {inputs older : List Input}

theorem Revoked.ended (undisturbed : Undisturbed service familyId inputs) (within : older <:+ inputs)
    (revoked : Revoked service familyId older) :
    Ended service familyId (final service older).database.tokens (final service older).calls
      (final service older).drawn := by
  induction older with
  | nil =>
    obtain ⟨input, older, start, _⟩ := revoked
    cases List.suffix_nil.mp start
  | cons input older ih =>
    have before : older <:+ inputs := (List.suffix_cons ..).trans within
    have balance := balanced service older
    have move : Move service (final service older) _ _ := step_move balance.matched input
    obtain ⟨input', older', start, opened, told⟩ := revoked
    rcases List.suffix_cons_iff.mp start with whole | earlier
    · cases whole
      exact move.ends (undisturbed input older within told) opened told
    · exact (move.ended balance (ih before ⟨input', older', earlier, opened, told⟩)).1

end Ending

/-- When no call is about to create a token of the family as a revocation completes, the revocation is
final. -/
theorem family_revocation_final (service : AuthService) (familyId : String) (inputs : List Input)
    (undisturbed : Undisturbed service familyId inputs) : RevocationFinal service familyId inputs := by
  constructor
  · intro older within revoked
    exact (revoked.ended undisturbed within).dead
  · intro input older within revoked
    have balance := balanced service older
    have ended := revoked.ended undisturbed ((List.suffix_cons ..).trans within)
    exact ((step_move balance.matched input).ended balance ended).2

-- A user registers, and a call redeems the token of the registration as far as the given steps.
def redeeming (answers : List Input) : List Input :=
  answers ++ [.call (.refreshAccessToken "aa") 1000, .answer 0 0, .answer 0 0, .answer 0 0,
    .call (.registerUser "ada@example.org" "password" none) 0]

-- The logout comes after the redemption has used the token up and before it has created the next one.
def lateLogout : List Input :=
  redeeming [.answer 1 1000, .answer 1 1000, .answer 2 1000, .call (.logoutUser (some "aa")) 1000,
    .answer 1 1000, .answer 1 1000]

-- The logout comes first.
def earlyLogout : List Input :=
  redeeming [.answer 1 1000, .answer 1 1000, .answer 1 1000, .answer 2 1000,
    .call (.logoutUser (some "aa")) 1000]

theorem family_revocation_final_sample : RevocationFinal sampleService "aaa" earlyLogout := by
  refine family_revocation_final sampleService "aaa" earlyLogout ?_
  intro input older within told
  simp only [earlyLogout, redeeming, List.cons_append, List.nil_append, List.suffix_cons_iff,
    List.suffix_nil, List.cons.injEq, reduceCtorEq, or_false] at within
  rcases within with ⟨rfl, rfl⟩ | ⟨rfl, rfl⟩ | ⟨rfl, rfl⟩ | ⟨rfl, rfl⟩ | earlier
  · exact absurd told (by decide +kernel)
  · decide +kernel
  · exact absurd told (by decide +kernel)
  · decide +kernel
  · rcases earlier with ⟨rfl, rfl⟩ | ⟨rfl, rfl⟩ | ⟨rfl, rfl⟩ | ⟨rfl, rfl⟩ | ⟨rfl, rfl⟩ | ⟨rfl, rfl⟩
    all_goals exact absurd told (by decide +kernel)

/-- The token that a redemption creates after the logout is not revoked. -/
theorem rotation_outlives_logout : ¬ RevocationFinal sampleService "aaa" lateLogout := by
  intro ended
  have revoked : Revoked sampleService "aaa" lateLogout :=
    ⟨.answer 2 1000, lateLogout.drop 3, List.drop_suffix 2 lateLogout, ⟨2, by decide +kernel, by decide⟩,
      by decide +kernel⟩
  have live : ∃ row ∈ (final sampleService lateLogout).database.tokens,
      row.familyId = "aaa" ∧ row.revokedAt = none := by decide +kernel
  obtain ⟨row, member, family, unrevoked⟩ := live
  exact ended.unrevoked lateLogout List.suffix_rfl revoked row member family unrevoked

end Delego.Gateway
