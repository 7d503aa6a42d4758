import Delego.Permissions.Step

set_option autoImplicit false

namespace Delego.Permissions

open Shared Soroban

variable {pair : Pair} {env : Env} {deed : Deed} {before after view : View} {turns since : List Turn}
  {grant : Turn} {terms : GrantTerms} {record : PermissionRecord}

def statusAfter : List Turn → PermissionStatus
  | [] => .active
  | turn :: earlier =>
    match turn.deed with
    | .revoked => .revoked
    | .paused => .paused
    | .resumed => .active
    | _ => statusAfter earlier

structure Standing (since : List Turn) (grant : Turn) (terms : GrantTerms)
    (record : PermissionRecord) : Prop where
  perTx : record.limitPerTx = terms.limitPerTx
  merchants : record.allowedMerchants = terms.allowedMerchants
  expiry : record.expiresAtLedger.toInt = grant.env.sequence.toInt + terms.ttlLedgers.toInt
  status : record.status = statusAfter since

theorem PairStep.found (step : PairStep pair env deed before after) (plain : deed.isGrant = false) :
    ∃ record, before.permission = some record := by
  cases step with
  | granted => cases plain
  | revoked _ found | spent _ found | queued _ found | decreased found | paused _ found
  | resumed _ found => exact ⟨_, found⟩

theorem PairStep.standing (step : PairStep pair env deed before after) (plain : deed.isGrant = false)
    (stored : before.permission = some record) (standing : Standing since grant terms record) :
    ∃ record, after.permission = some record ∧
      Standing (⟨env, deed, before, after⟩ :: since) grant terms record := by
  obtain ⟨perTx, merchants, expiry, status⟩ := standing
  cases step with
  | granted => cases plain
  | queued => exact ⟨record, stored, perTx, merchants, expiry, status⟩
  | spent _ found | decreased found =>
    cases found.symm.trans stored
    exact ⟨_, rfl, perTx, merchants, expiry, status⟩
  | revoked _ found | paused _ found | resumed _ found =>
    cases found.symm.trans stored
    exact ⟨_, rfl, perTx, merchants, expiry, rfl⟩

theorem Follows.standing (follows : Follows pair turns view)
    (last : LastMarked Turn.Grants turns since grant) :
    ∃ terms record, grant.deed = .granted terms ∧ view.permission = some record ∧
      Standing since grant terms record := by
  induction turns generalizing since view with
  | nil => exact last.not_nil.elim
  | cons turn older ih =>
    obtain ⟨rfl, step, earlier⟩ := follows
    rcases last.cases_cons with ⟨marked, rfl, rfl⟩ | ⟨plain, rest, rfl, tail⟩
    · rcases grant with ⟨env, deed, before, after⟩
      dsimp only at step
      cases step with
      | @granted terms _ _ _ _ expiry => exact ⟨terms, _, rfl, rfl, rfl, rfl, expiry, rfl⟩
      | revoked | spent | queued | decreased | paused | resumed => cases marked
    · obtain ⟨terms, record, given, stored, standing⟩ := ih earlier tail
      obtain ⟨record, stored, standing⟩ := step.standing (Turn.plain plain) stored standing
      exact ⟨terms, record, given, stored, standing⟩

theorem Follows.granted (follows : Follows pair turns view) (stored : view.permission = some record) :
    ∃ since grant, LastMarked Turn.Grants turns since grant := by
  induction turns generalizing view record with
  | nil =>
    subst follows
    cases stored
  | cons turn older ih =>
    by_cases grants : turn.Grants
    · exact ⟨[], turn, .here grants⟩
    · obtain ⟨record, found⟩ := follows.2.1.found (Turn.plain grants)
      obtain ⟨since, grant, last⟩ := ih follows.2.2 found
      exact ⟨turn :: since, grant, last.cons grants⟩

theorem statusAfter_active (active : statusAfter since = .active) {mid rest : List Turn} {pause : Turn}
    (cut : since = mid ++ pause :: rest) (paused : pause.deed = .paused) :
    ∃ resume ∈ mid, resume.deed = .resumed := by
  induction mid generalizing since with
  | nil =>
    subst cut
    simp [statusAfter, paused] at active
  | cons turn mid ih =>
    subst cut
    by_cases resumed : turn.deed = .resumed
    · exact ⟨turn, List.mem_cons_self .., resumed⟩
    · have earlier : statusAfter (mid ++ pause :: rest) = .active := by
        cases done : turn.deed <;> simp_all [statusAfter]
      obtain ⟨resume, member, done⟩ := ih earlier rfl
      exact ⟨resume, List.mem_cons_of_mem _ member, done⟩

/-- A spend is signed by the delegate and keeps to the terms of the latest grant before it. -/
theorem spend_obeys_grant (inputs : List (Invocation Call)) (pair : Pair) (newer older : List Turn)
    (spend : Turn) (amount : I128) (merchant : Address)
    (cut : turnsOf pair (history inputs) = newer ++ spend :: older)
    (spent : spend.deed = .spent amount merchant) :
    pair.2 ∈ spend.env.signers ∧
      ∃ since grant terms, LastMarked Turn.Grants older since grant ∧ grant.deed = .granted terms ∧
        (terms.allowedMerchants = [] ∨ merchant ∈ terms.allowedMerchants) ∧
        amount.toInt ≤ terms.limitPerTx.toInt ∧
        spend.env.sequence.toInt < grant.env.sequence.toInt + terms.ttlLedgers.toInt ∧
        ∀ mid pause rest, since = mid ++ pause :: rest → pause.deed = .paused →
          ∃ resume ∈ mid, resume.deed = .resumed := by
  obtain ⟨follows, step⟩ := (history_follows pair inputs).before cut
  rw [spent] at step
  generalize spend.after = after at step
  cases step with
  | @spent _ record _ _ _ signed found spendable =>
    obtain ⟨since, grant, last⟩ := follows.granted found
    obtain ⟨terms, stored, given, here, standing⟩ := follows.standing last
    cases found.symm.trans here
    refine ⟨signed, since, grant, terms, last, given, ?_, ?_, ?_, ?_⟩
    · have listed := spendable.listed
      rw [standing.merchants] at listed
      cases merchants : terms.allowedMerchants with
      | nil => exact .inl rfl
      | cons first rest => exact .inr (merchants ▸ listed (by simp [merchants]))
    · have bound := spendable.perTx
      rw [standing.perTx] at bound
      exact bound
    · have unexpired := spendable.unexpired
      rw [standing.expiry] at unexpired
      exact unexpired
    · intro mid pause rest
      exact statusAfter_active (standing.status.symm.trans spendable.active)

theorem spend_obeys_grant_sample : ∃ since grant terms,
    LastMarked Turn.Grants
      (turnsOf samplePair (history
        [sampleGrant (.lit 10) (.lit 500) (.lit 100) (.lit 60)])) since grant ∧
      grant.deed = .granted terms ∧ (40 : Int) ≤ terms.limitPerTx.toInt := by
  obtain ⟨_, since, grant, terms, last, given, _, bound, _⟩ := spend_obeys_grant
    [sampleSpend (.lit 12) (.lit 520) (.lit 40),
      sampleGrant (.lit 10) (.lit 500) (.lit 100) (.lit 60)]
    samplePair [] _ _ (.lit 40) (.sample 3) rfl rfl
  exact ⟨since, grant, terms, last, given, bound⟩

end Delego.Permissions
