import Delego.Permissions.Step

set_option autoImplicit false

namespace Delego.Permissions

open Shared Soroban

variable {pair : Pair} {env : Env} {deed : Deed} {before after view : View} {record : PermissionRecord}

def View.Revoked (view : View) : Prop :=
  ∃ record, view.permission = some record ∧ record.status = .revoked

def Turn.LeavesRevoked (turn : Turn) : Prop := turn.deed = .resumed → ¬ turn.before.Revoked

theorem View.Revoked.status (revoked : before.Revoked) (found : before.permission = some record) :
    record.status = .revoked := by
  obtain ⟨stored, present, status⟩ := revoked
  cases present.symm.trans found
  exact status

theorem PairStep.no_spend_revoked {amount : I128} {merchant : Address}
    (step : PairStep pair env (.spent amount merchant) before after) : ¬ before.Revoked := by
  intro revoked
  cases step with
  | spent _ found spendable => cases (revoked.status found).symm.trans spendable.active

theorem PairStep.keeps_revoked (step : PairStep pair env deed before after) (plain : deed.isGrant = false)
    (leaves : Turn.LeavesRevoked ⟨env, deed, before, after⟩) (revoked : before.Revoked) :
    after.Revoked := by
  cases step with
  | granted => cases plain
  | revoked => exact ⟨_, rfl, rfl⟩
  | spent _ found spendable => cases (revoked.status found).symm.trans spendable.active
  | queued => exact revoked
  | decreased found =>
    have status := revoked.status found
    exact ⟨_, rfl, status⟩
  | paused _ found active => cases (revoked.status found).symm.trans active
  | resumed => exact absurd revoked (leaves rfl)

theorem Follows.revoked {mid older : List Turn} {revocation : Turn}
    (follows : Follows pair (mid ++ revocation :: older) view) (done : revocation.deed = .revoked)
    (ungranted : ∀ turn ∈ mid, ¬ turn.Grants) (leaves : ∀ turn ∈ mid, turn.LeavesRevoked) :
    view.Revoked := by
  induction mid generalizing view with
  | nil =>
    obtain ⟨rfl, step, _⟩ := follows
    rw [done] at step
    generalize revocation.after = after at step ⊢
    cases step with
    | revoked => exact ⟨_, rfl, rfl⟩
  | cons turn mid ih =>
    obtain ⟨rfl, step, earlier⟩ := follows
    have before := ih earlier (fun turn member => ungranted turn (List.mem_cons_of_mem _ member))
      (fun turn member => leaves turn (List.mem_cons_of_mem _ member))
    have plain := Turn.plain (ungranted turn (List.mem_cons_self ..))
    exact step.keeps_revoked plain (leaves turn (List.mem_cons_self ..)) before

/-- After a revocation nothing is spent until the pair is granted again. -/
def RevocationFinal (inputs : List (Invocation Call)) (pair : Pair) : Prop :=
  ∀ newer spend mid revocation older amount merchant,
    turnsOf pair (history inputs) = newer ++ spend :: (mid ++ revocation :: older) →
      spend.deed = .spent amount merchant → revocation.deed = .revoked → ∃ turn ∈ mid, turn.Grants

/-- Revocation is final in every run that never resumes a revoked permission. -/
theorem revocationFinal_of_leaves (inputs : List (Invocation Call)) (pair : Pair)
    (leaves : ∀ turn ∈ turnsOf pair (history inputs), turn.LeavesRevoked) :
    RevocationFinal inputs pair := by
  intro newer spend mid revocation older amount merchant cut spent done
  by_contra ungranted
  obtain ⟨follows, step⟩ := (history_follows pair inputs).before cut
  rw [spent] at step
  refine step.no_spend_revoked (follows.revoked done ?_ ?_)
  · intro turn member grants
    exact ungranted ⟨turn, member, grants⟩
  · intro turn member
    refine leaves turn ?_
    rw [cut]
    exact List.mem_append_right _ (List.mem_cons_of_mem _ (List.mem_append_left _ member))

def revokedThenResumed : List (Invocation Call) :=
  [ sampleSpend (.lit 13) (.lit 530) (.lit 40),
    ownerCall (.lit 12) (.lit 520) (.resume samplePair.1 samplePair.2),
    ownerCall (.lit 11) (.lit 510) (.revoke samplePair.1 samplePair.2),
    sampleGrant (.lit 10) (.lit 500) (.lit 100) (.lit 60) ]

def revokedThenGranted : List (Invocation Call) :=
  [ sampleSpend (.lit 14) (.lit 540) (.lit 40),
    sampleGrant (.lit 13) (.lit 530) (.lit 100) (.lit 60),
    sampleSpend (.lit 12) (.lit 520) (.lit 40),
    ownerCall (.lit 11) (.lit 510) (.revoke samplePair.1 samplePair.2),
    sampleGrant (.lit 10) (.lit 500) (.lit 100) (.lit 60) ]

theorem revocationFinal_of_leaves_sample : RevocationFinal revokedThenGranted samplePair := by
  apply revocationFinal_of_leaves
  intro turn member resumed
  have among := List.mem_map_of_mem (f := Turn.deed) member
  change turn.deed ∈ [.spent _ _, .granted _, .revoked, .granted _] at among
  simp [resumed] at among

theorem resume_undoes_revocation : ¬ ∀ inputs pair, RevocationFinal inputs pair := by
  intro every
  obtain ⟨turn, member, grants⟩ := every revokedThenResumed samplePair [] _ [_] _ _ _ _ rfl rfl rfl
  cases List.mem_singleton.mp member
  cases grants

end Delego.Permissions
