import Delego.Permissions.Step

set_option autoImplicit false

namespace Delego.Permissions

open Shared Soroban

variable {pair : Pair} {env : Env} {deed : Deed} {before after view : View} {turns : List Turn}

/-- The stored metadata is what the latest grant came with: nothing, if that grant was a plain one. -/
def Current (turns : List Turn) (metadata : Option PermissionMetadata) : Prop :=
  ∀ since newest terms, LastMarked Turn.Grants turns since newest →
    newest.deed = .granted terms → metadata = terms.metadata.join

def Turn.LeavesNothing (turn : Turn) : Prop :=
  ∀ terms, turn.deed = .granted terms → terms.metadata = none → turn.before.metadata = none

theorem PairStep.metadata_kept (step : PairStep pair env deed before after)
    (plain : deed.isGrant = false) : after.metadata = before.metadata := by
  cases step with
  | granted => cases plain
  | revoked | spent | queued | decreased | paused | resumed => rfl

theorem PairStep.metadata_granted {terms : GrantTerms}
    (step : PairStep pair env (.granted terms) before after) :
    after.metadata = terms.metadata.getD before.metadata := by
  cases step
  rfl

theorem Turn.Grants.terms {turn : Turn} (grants : turn.Grants) :
    ∃ terms, turn.deed = .granted terms := by
  unfold Turn.Grants at grants
  cases deed : turn.deed with
  | granted terms => exact ⟨terms, rfl⟩
  | revoked | spent | queued | decreased | paused | resumed =>
    rw [deed] at grants
    cases grants

theorem current_granted {turn : Turn} {terms : GrantTerms} (granted : turn.deed = .granted terms)
    (metadata : Option PermissionMetadata) :
    Current (turn :: turns) metadata ↔ metadata = terms.metadata.join := by
  have marked : turn.Grants := by
    simp [Turn.Grants, granted, Deed.isGrant]
  constructor
  · intro current
    exact current [] turn terms (.here marked) granted
  · intro same since newest other last deed
    rcases last.cases_cons with ⟨_, _, rfl⟩ | ⟨plain, _⟩
    · cases granted.symm.trans deed
      exact same
    · exact absurd marked plain

theorem current_cons {turn : Turn} (step : PairStep pair turn.env turn.deed turn.before turn.after)
    (current : Current turns turn.before.metadata) :
    Current (turn :: turns) turn.after.metadata ↔ turn.LeavesNothing := by
  by_cases grants : turn.Grants
  · obtain ⟨terms, granted⟩ := grants.terms
    rw [granted] at step
    rw [current_granted granted, step.metadata_granted]
    have only : turn.LeavesNothing ↔ (terms.metadata = none → turn.before.metadata = none) := by
      simp [Turn.LeavesNothing, granted]
    rw [only]
    cases terms.metadata <;> simp
  · constructor
    · intro _ terms granted
      exact absurd (by simp [Turn.Grants, granted, Deed.isGrant]) grants
    · intro _ since newest terms last granted
      rcases last.cases_cons with ⟨marked, _⟩ | ⟨_, rest, _, tail⟩
      · exact absurd marked grants
      · rw [step.metadata_kept (Turn.plain grants)]
        exact current rest newest terms tail granted

def MetadataCurrent (inputs : List (Invocation Call)) (pair : Pair) : Prop :=
  Current (turnsOf pair (history inputs)) (getMetadata (final inputs) pair.1 pair.2)

theorem turnsOf_cons (input : Invocation Call) {earlier : List (Invocation Call)} {turn : Turn}
    (member : turn ∈ turnsOf pair (history earlier)) :
    turn ∈ turnsOf pair (history (input :: earlier)) := by
  obtain ⟨receipt, among, took⟩ := List.mem_filterMap.mp member
  exact List.mem_filterMap.mpr ⟨receipt, List.mem_cons_of_mem _ among, took⟩

theorem metadata_cons (input : Invocation Call) {earlier : List (Invocation Call)}
    (current : MetadataCurrent earlier pair) :
    (MetadataCurrent (input :: earlier) pair ∧
        ∀ turn ∈ turnsOf pair (history earlier), turn.LeavesNothing) ↔
      ∀ turn ∈ turnsOf pair (history (input :: earlier)), turn.LeavesNothing := by
  cases observe_observed pair (final earlier) input with
  | turn took before after step =>
    have turns : turnsOf pair (history (input :: earlier)) = _ :: turnsOf pair (history earlier) :=
      List.filterMap_cons_some took
    have metadata : getMetadata (final (input :: earlier)) pair.1 pair.2 = _ :=
      congrArg View.metadata after.symm
    have held := congrArg View.metadata before
    rw [MetadataCurrent, turns, metadata, List.forall_mem_cons,
      current_cons step (held ▸ current)]
  | idle none same =>
    have turns : turnsOf pair (history (input :: earlier)) = turnsOf pair (history earlier) :=
      List.filterMap_cons_none none
    have metadata : getMetadata (final (input :: earlier)) pair.1 pair.2 =
        getMetadata (final earlier) pair.1 pair.2 := congrArg View.metadata same
    rw [MetadataCurrent, turns, metadata]
    exact and_iff_right current

/-- Throughout a run the stored metadata is that of the latest grant exactly when no plain grant of
the run meets metadata that an older grant has stored. -/
theorem metadata_current_iff (inputs : List (Invocation Call)) (pair : Pair) :
    (∀ older, older <:+ inputs → MetadataCurrent older pair) ↔
      ∀ turn ∈ turnsOf pair (history inputs), turn.LeavesNothing := by
  induction inputs with
  | nil =>
    constructor
    · intro _ turn member
      cases member
    · intro _ older suffix
      rw [List.suffix_nil.mp suffix]
      intro since newest terms last
      exact last.not_nil.elim
  | cons input earlier ih =>
    have split : (∀ older, older <:+ input :: earlier → MetadataCurrent older pair) ↔
        MetadataCurrent (input :: earlier) pair ∧
          ∀ older, older <:+ earlier → MetadataCurrent older pair := by
      simp [List.suffix_cons_iff, or_imp, forall_and]
    rw [split]
    constructor
    · intro both
      have current := both.2 earlier List.suffix_rfl
      exact (metadata_cons input current).mp ⟨both.1, ih.mp both.2⟩
    · intro clean
      have rest := ih.mpr (fun turn member => clean turn (turnsOf_cons input member))
      exact ⟨((metadata_cons input (rest earlier List.suffix_rfl)).mpr clean).1, rest⟩

def plainAfterMetadata : List (Invocation Call) :=
  [ sampleGrant (.lit 11) (.lit 510) (.lit 200) (.lit 20),
    ownerCall (.lit 10) (.lit 500) (.grantWithMetadata samplePair.1 samplePair.2 (.lit 100) (.lit 10)
      [] (.lit 1000) (some ⟨255, "v1"⟩)) ]

-- The new policy answers with the hash of the old one.
theorem plain_grant_keeps_metadata :
    getMetadata (final plainAfterMetadata) samplePair.1 samplePair.2 = some ⟨255, "v1"⟩ ∧
      ¬ MetadataCurrent plainAfterMetadata samplePair := by
  refine ⟨rfl, ?_⟩
  intro current
  cases (current_granted rfl _).mp current

end Delego.Permissions
