import Delego.Checkout.Saga
import Delego.Saga.Step
import Delego.Shared.Run

set_option autoImplicit false

namespace Delego.Checkout

open Shared Saga

abbrev CheckoutRecord := SagaRecord CheckoutContext

-- What a runner has asked of the payments service, with the record it had claimed for it.
inductive Asked where
  | deposit (runner : Nat) (current : CheckoutRecord)
  | refund (runner : Nat) (current : CheckoutRecord)

/-- The runners of checkouts, and the requests that are on their way to the payments service or have
been performed there, each on an escrow. -/
structure CheckoutSystem where
  saga : Saga.System CheckoutContext
  sent : List Asked
  performed : List (Asked × String)

inductive CheckoutInput where
  | saga (input : Saga.Input CheckoutContext)
  | respond (runner : Nat) (answer : Answer)
  | perform (request : Nat) (escrowId : String)

def settledAs (text : Json → String) (context : CheckoutContext) (answer : Answer)
    (stepName : String) : Mode → Except String CheckoutContext
  | .advancing =>
    if stepName = "deposit-escrow" then DepositEscrowStep.action text context answer
    else ConfirmCheckoutStep.action context
  | .compensating _ =>
    if stepName = "deposit-escrow" then DepositEscrowStep.compensation text context answer
    else ConfirmCheckoutStep.compensation context

def asks (id : Nat) : Saga.Phase CheckoutContext → Saga.Phase CheckoutContext → List Asked
  | .saving .., .working .advancing current stepName _ =>
    if stepName = "deposit-escrow" then [.deposit id current] else []
  | .saving .., .working (.compensating _) current stepName _ =>
    if stepName = "deposit-escrow" ∧ current.context.escrowId.truthy then [.refund id current] else []
  | _, _ => []

def checkoutStep (text : Json → String) (claimLeaseMs : Nat → Nat) (system : CheckoutSystem) :
    CheckoutInput → CheckoutSystem
  | .saga (.settle ..) => system
  | .saga (.proceed id) =>
    let saga := (Saga.step checkoutSaga claimLeaseMs system.saga (.proceed id)).2
    { system with
      saga
      sent := system.sent ++ asks id (system.saga.runners id).phase (saga.runners id).phase }
  | .saga input =>
    { system with
      saga := (Saga.step checkoutSaga claimLeaseMs system.saga input).2 }
  | .respond id answer =>
    match (system.saga.runners id).phase with
    | .working mode current stepName _ =>
      { system with
        saga := (Saga.step checkoutSaga claimLeaseMs system.saga
          (.settle id (settledAs text current.context answer stepName mode))).2 }
    | _ => system
  | .perform request escrowId =>
    match system.sent[request]? with
    | none => system
    | some asked =>
      { system with
        sent := system.sent.eraseIdx request
        performed := (asked, escrowId) :: system.performed }

-- Inputs are listed newest first.
def checkoutRun (text : Json → String) (claimLeaseMs : Nat → Nat) (clock : Nat) :
    List CheckoutInput → CheckoutSystem
  | [] => ⟨.initial clock, [], []⟩
  | input :: earlier => checkoutStep text claimLeaseMs (checkoutRun text claimLeaseMs clock earlier) input

/-- If the record of a checkout has failed, every deposit that was performed for it has been
refunded. -/
def NothingStranded (sagaId : String) (system : CheckoutSystem) : Prop :=
  (∃ record, system.saga.store sagaId = some record ∧ record.status = .failed) →
    ∀ runner current escrowId, (Asked.deposit runner current, escrowId) ∈ system.performed →
      current.sagaId = sagaId →
        ∃ refunder claimed, (Asked.refund refunder claimed, escrowId) ∈ system.performed ∧
          claimed.sagaId = sagaId

-- A performed deposit whose runner has not saved it yet.
def Unsaved (system : CheckoutSystem) (runner : Nat) (current : CheckoutRecord) : Prop :=
  (∃ escrowId, (Asked.deposit runner current, escrowId) ∈ system.performed) ∧
    ((∃ rest, (system.saga.runners runner).phase = .working .advancing current "deposit-escrow" rest) ∨
      ∃ draft rest, (system.saga.runners runner).phase = .saving current draft (.again .advancing rest))

/-- A deposit is performed while its runner waits for it under the stored record, its answer is one
that the action accepts, and no other runner's save of the saga goes through before it is saved. -/
def Recorded (text : Json → String) (system : CheckoutSystem) : CheckoutInput → Prop
  | .perform request _ => ∀ runner current, system.sent[request]? = some (.deposit runner current) →
    system.saga.store current.sagaId = some current ∧
      ∃ rest, (system.saga.runners runner).phase = .working .advancing current "deposit-escrow" rest
  | .respond runner answer => ∀ current rest,
    (system.saga.runners runner).phase = .working .advancing current "deposit-escrow" rest →
      (∃ escrowId, (Asked.deposit runner current, escrowId) ∈ system.performed) →
        (DepositEscrowStep.action text current.context answer).isOk = true
  | .saga (.proceed id) => ∀ current draft next,
    (system.saga.runners id).phase = .saving current draft next →
      system.saga.store current.sagaId = some current →
        ∀ runner claimed, claimed.sagaId = current.sagaId → Unsaved system runner claimed →
          runner = id
  | _ => True

-- Where a performed deposit stands: with its runner, or in the record.
inductive Secured (system : Saga.System CheckoutContext) (runner : Nat) (current : CheckoutRecord) :
    Prop
  | waiting (stored : system.store current.sagaId = some current) (rest : List String)
      (phase : (system.runners runner).phase = .working .advancing current "deposit-escrow" rest)
  | accepted (stored : system.store current.sagaId = some current) (context : CheckoutContext)
      (now : Nat) (rest : List String)
      (phase : (system.runners runner).phase =
        .saving current (current.acted "deposit-escrow" context now) (.again .advancing rest))
  | saved (record : CheckoutRecord) (stored : system.store current.sagaId = some record)
      (done : "deposit-escrow" ∈ record.completedSteps)
      (status : record.status = .running ∨ record.status = .completed)

-- Only a deposit that is not done yet is rejected.
def RejectedInTime : Saga.Phase CheckoutContext → Prop
  | .saving current _ (.compensate _) => "deposit-escrow" ∉ current.completedSteps
  | _ => True

structure Sheltered (system : CheckoutSystem) : Prop where
  formed : Formed checkoutSaga system.saga
  rejected : ∀ id, RejectedInTime (system.saga.runners id).phase
  secured : ∀ runner current escrowId,
    (Asked.deposit runner current, escrowId) ∈ system.performed → Secured system.saga runner current

theorem Secured.not_failed {system : Saga.System CheckoutContext} {runner : Nat}
    {current record : CheckoutRecord} (secured : Secured system runner current)
    (formed : Formed checkoutSaga system) (stored : system.store current.sagaId = some record) :
    record.status ≠ .failed := by
  intro failed
  cases secured with
  | waiting held rest phase =>
    cases held.symm.trans stored
    have sound := formed.sound runner
    rw [phase] at sound
    cases sound.2.1.1.symm.trans failed
  | accepted held context now rest phase =>
    cases held.symm.trans stored
    have sound := formed.sound runner
    rw [phase] at sound
    obtain ⟨remaining, mode, ahead⟩ := sound.2.ahead
    have live := ahead.not_terminal
    rw [failed] at live
    cases live
  | saved other held _ status =>
    cases held.symm.trans stored
    rcases status with running | completed
    · cases running.symm.trans failed
    · cases completed.symm.trans failed

theorem Sheltered.nothing_stranded {system : CheckoutSystem} (sheltered : Sheltered system)
    (sagaId : String) : NothingStranded sagaId system := by
  rintro ⟨record, stored, failed⟩ runner current escrowId deposited rfl
  exact absurd failed
    ((sheltered.secured runner current escrowId deposited).not_failed sheltered.formed stored)

section Turns

variable {before after : Saga.System CheckoutContext} {runner id : Nat}
  {current draft claimed : CheckoutRecord} {next : Next} {rest : List String}

structure Unmoved (before after : Saga.System CheckoutContext) : Prop where
  store : after.store = before.store
  phases : ∀ id, (after.runners id).phase = (before.runners id).phase ∨
    (before.runners id).phase.isIdle = true ∧ RejectedInTime (after.runners id).phase

theorem Unmoved.refl (system : Saga.System CheckoutContext) : Unmoved system system :=
  ⟨rfl, fun _ => .inl rfl⟩

theorem Unmoved.started {call : SagaCall CheckoutContext} {timers : List Timer}
    (idle : (before.runners id).phase.isIdle = true) :
    Unmoved before
      { before.withRunner id (begin checkoutSaga before.clock call) with
        timers } := by
  refine ⟨rfl, ?_⟩
  intro other
  by_cases same : other = id
  · subst same
    refine .inr ⟨idle, ?_⟩
    simp only [System.withRunner, Function.update_self]
    cases call <;> trivial
  · refine .inl ?_
    simp only [System.withRunner, Function.update_of_ne same]

theorem Unmoved.rejected (unmoved : Unmoved before after)
    (rejected : ∀ id, RejectedInTime (before.runners id).phase) (id : Nat) :
    RejectedInTime (after.runners id).phase := by
  rcases unmoved.phases id with same | ⟨_, here⟩
  · rw [same]
    exact rejected id
  · exact here

theorem Unmoved.secured (unmoved : Unmoved before after) (secured : Secured before runner current) :
    Secured after runner current := by
  obtain ⟨store, phases⟩ := unmoved
  have kept (busy : (before.runners runner).phase.isIdle = false) :
      (after.runners runner).phase = (before.runners runner).phase := by
    rcases phases runner with same | ⟨idle, _⟩
    · exact same
    · rw [busy] at idle
      cases idle
  cases secured with
  | waiting stored rest phase =>
    exact .waiting (store ▸ stored) rest ((kept (by rw [phase]; rfl)).trans phase)
  | accepted stored context now rest phase =>
    exact .accepted (store ▸ stored) context now rest ((kept (by rw [phase]; rfl)).trans phase)
  | saved record stored done status => exact .saved record (store ▸ stored) done status

theorem Write.keeps_deposit {clock : Nat} (write : Write checkoutSaga clock current next draft)
    (inTime : ∀ message, next = .compensate message → "deposit-escrow" ∉ current.completedSteps)
    (done : "deposit-escrow" ∈ current.completedSteps)
    (status : current.status = .running ∨ current.status = .completed) :
    "deposit-escrow" ∈ draft.completedSteps ∧
      (draft.status = .running ∨ draft.status = .completed) := by
  have failing (compensating : current.status = .compensating) : False := by
    rcases status with running | completed
    · cases running.symm.trans compensating
    · cases completed.symm.trans compensating
  cases write with
  | claim => exact ⟨done, status⟩
  | acted => exact ⟨List.mem_append_left _ done, status⟩
  | rejected => exact absurd done (inTime _ rfl)
  | compensated ahead | released ahead | failed ahead => exact (failing ahead.1).elim
  | completed => exact ⟨done, .inr rfl⟩

theorem slot_kept (turn : RunnerStep checkoutSaga before.clock before.store (before.runners id).phase
      none after.store (after.runners id).phase)
    (stored : before.store current.sagaId = some current)
    (alone : ∀ saved draft next, (before.runners id).phase = .saving saved draft next →
      before.store saved.sagaId = some saved → saved.sagaId ≠ current.sagaId) :
    after.store current.sagaId = some current := by
  rcases turn.kept_or_saved with ⟨_, kept⟩ | ⟨saved, draft, next, saving, held, _, store, _⟩
  · rw [kept _ (by simp [stored])]
    exact stored
  · rw [store, Function.update_of_ne (Ne.symm (alone saved draft next saving held))]
    exact stored

theorem record_kept {record : CheckoutRecord}
    (turn : RunnerStep checkoutSaga before.clock before.store (before.runners id).phase none
      after.store (after.runners id).phase)
    (inTime : RejectedInTime (before.runners id).phase)
    (stored : before.store current.sagaId = some record)
    (done : "deposit-escrow" ∈ record.completedSteps)
    (status : record.status = .running ∨ record.status = .completed) :
    Secured after runner current := by
  rcases turn.kept_or_saved with ⟨_, kept⟩ | ⟨saved, draft, next, saving, held, write, store, _⟩
  · refine .saved record ?_ done status
    rw [kept _ (by simp [stored])]
    exact stored
  · by_cases ours : current.sagaId = saved.sagaId
    · rw [ours] at stored
      cases held.symm.trans stored
      rw [saving] at inTime
      obtain ⟨done, status⟩ :=
        Write.keeps_deposit write (fun message same => by rwa [same] at inTime) done status
      exact .saved draft.bumped (by rw [store, ours, Function.update_self]) done status
    · refine .saved record ?_ done status
      rw [store, Function.update_of_ne ours]
      exact stored

theorem Secured.own (turn : RunnerStep checkoutSaga before.clock before.store
      (before.runners id).phase none after.store (after.runners id).phase)
    (inTime : RejectedInTime (before.runners id).phase)
    (secured : Secured before id current) : Secured after id current := by
  cases secured with
  | waiting stored rest phase =>
    generalize started : (before.runners id).phase = phase₀ at turn phase
    subst phase
    generalize ended : (after.runners id).phase = phase₁ at turn
    generalize written : after.store = store at turn
    cases turn with
    | quiet claim => cases claim
    | waiting => exact .waiting (written ▸ stored) rest ended
  | accepted stored context now rest phase =>
    generalize started : (before.runners id).phase = phase₀ at turn phase
    subst phase
    generalize ended : (after.runners id).phase = phase₁ at turn
    generalize written : after.store = store at turn
    cases turn with
    | quiet claim => cases claim
    | waiting => exact .accepted (written ▸ stored) context now rest ended
    | lost stale => exact absurd stored stale
    | saved found write =>
      have running : current.status = .running := by
        generalize current.acted "deposit-escrow" context now = draft at write
        cases write with
        | acted ahead => exact ahead.1
      refine .saved (current.acted "deposit-escrow" context now).bumped ?_ ?_ (.inl running)
      · rw [written, Function.update_self]
      · exact List.mem_append_right _ (List.mem_singleton_self _)
  | saved record stored done status => exact record_kept turn inTime stored done status

theorem Secured.others (turn : RunnerStep checkoutSaga before.clock before.store
      (before.runners id).phase none after.store (after.runners id).phase)
    (others : ∀ other, other ≠ id → after.runners other = before.runners other)
    (different : runner ≠ id)
    (inTime : RejectedInTime (before.runners id).phase)
    (secured : Secured before runner current)
    (alone : ∀ saved draft next, (before.runners id).phase = .saving saved draft next →
      before.store saved.sagaId = some saved → current.sagaId = saved.sagaId →
        ((∃ rest, (before.runners runner).phase = .working .advancing current "deposit-escrow" rest) ∨
          ∃ draft rest, (before.runners runner).phase = .saving current draft (.again .advancing rest)) →
            runner = id) : Secured after runner current := by
  cases secured with
  | waiting stored rest phase =>
    refine .waiting (slot_kept turn stored ?_) rest (by rw [others runner different, phase])
    intro saved draft next saving held same
    exact different (alone saved draft next saving held same.symm (.inl ⟨rest, phase⟩))
  | accepted stored context now rest phase =>
    refine .accepted (slot_kept turn stored ?_) context now rest (by rw [others runner different, phase])
    intro saved draft next saving held same
    exact different (alone saved draft next saving held same.symm (.inr ⟨_, rest, phase⟩))
  | saved record stored done status => exact record_kept turn inTime stored done status

theorem turn_inTime (turn : RunnerStep checkoutSaga before.clock before.store
      (before.runners id).phase none after.store (after.runners id).phase)
    (inTime : RejectedInTime (before.runners id).phase) :
    RejectedInTime (after.runners id).phase := by
  generalize started : (before.runners id).phase = phase at turn inTime
  generalize ended : (after.runners id).phase = phase' at turn
  generalize after.store = store at turn
  have unclaimed (claim : phase'.claim = none) : RejectedInTime phase' := by
    cases phase' with
    | saving current draft next =>
      cases next with
      | compensate => cases claim
      | work | again | abort | finish => trivial
    | idle | creating | loading | looping | claiming | working | settled | rereading | rescheduling
    | recovered => trivial
  cases turn with
  | quiet _ claim => exact unclaimed claim
  | waiting => exact inTime
  | created _ _ _ _ claim => exact unclaimed claim
  | lost => exact unclaimed lost_claim
  | @saved _ _ next => cases next <;> trivial

theorem proceed_sheltered (text : Json → String) (claimLeaseMs : Nat → Nat) {system : CheckoutSystem}
    (sheltered : Sheltered system) (id : Nat)
    (recorded : Recorded text system (.saga (.proceed id))) :
    Sheltered (checkoutStep text claimLeaseMs system (.saga (.proceed id))) := by
  obtain ⟨formed, rejected, secured⟩ := sheltered
  have stepped := (step_systemStep claimLeaseMs formed (.proceed id)).formed formed
  cases crashed : (system.saga.runners id).crashed with
  | true =>
    have same : (Saga.step checkoutSaga claimLeaseMs system.saga (.proceed id)).2 = system.saga := by
      simp [Saga.step, crashed]
    refine ⟨stepped, ?_, ?_⟩
    · simpa only [checkoutStep, same] using rejected
    · simpa only [checkoutStep, same] using secured
  | false =>
    have proceeded := proceed_step checkoutSaga (claimLeaseMs id) system.saga.clock
      (system.saga.runners id).recovering formed.storeOk (formed.sound id)
    generalize moved : (Saga.step checkoutSaga claimLeaseMs system.saga (.proceed id)).2 = after
    have others (other : Nat) (different : other ≠ id) :
        after.runners other = system.saga.runners other := by
      rw [← moved]
      exact step_frame checkoutSaga claimLeaseMs system.saga fun same => different (by cases same; rfl)
    have turn : RunnerStep checkoutSaga system.saga.clock system.saga.store
        (system.saga.runners id).phase none after.store (after.runners id).phase := by
      rw [← moved]
      simpa [Saga.step, crashed, System.withRunner] using proceeded
    rw [moved] at stepped
    simp only [checkoutStep, moved]
    refine ⟨stepped, ?_, ?_⟩
    · intro other
      by_cases same : other = id
      · rw [same]
        exact turn_inTime turn (rejected id)
      · simpa only [others other same] using rejected other
    · intro runner current escrowId deposited
      have before := secured runner current escrowId deposited
      by_cases same : runner = id
      · subst same
        exact before.own turn (rejected runner)
      · refine before.others turn others same (rejected id) ?_
        intro saved draft next saving held ours waits
        exact recorded saved draft next saving held runner current ours ⟨⟨escrowId, deposited⟩, waits⟩

theorem action_of_confirm (text : Json → String) {stepName message : String} {context : CheckoutContext}
    {answer : Answer}
    (refused : settledAs text context answer stepName .advancing = .error message) :
    stepName = "deposit-escrow" := by
  by_cases deposit : stepName = "deposit-escrow"
  · exact deposit
  · simp [settledAs, deposit, ConfirmCheckoutStep.action] at refused

theorem ahead_fresh {stepName : String}
    (ahead : Ahead checkoutSaga current (stepName :: rest) .advancing) :
    stepName ∉ current.completedSteps := by
  have distinct := checkoutSaga.distinct
  rw [← ahead.2] at distinct
  intro done
  exact (List.nodup_append.mp distinct).2.2 stepName done stepName List.mem_cons_self rfl

theorem respond_sheltered (text : Json → String) (claimLeaseMs : Nat → Nat) {system : CheckoutSystem}
    (sheltered : Sheltered system) (id : Nat) (answer : Answer)
    (recorded : Recorded text system (.respond id answer)) :
    Sheltered (checkoutStep text claimLeaseMs system (.respond id answer)) := by
  obtain ⟨formed, rejected, secured⟩ := sheltered
  cases phase : (system.saga.runners id).phase with
  | working mode current stepName rest =>
    cases crashed : (system.saga.runners id).crashed with
    | true =>
      have same : (Saga.step checkoutSaga claimLeaseMs system.saga (.settle id
          (settledAs text current.context answer stepName mode))).2 = system.saga := by
        simp [Saga.step, crashed]
      simp only [checkoutStep, phase, same]
      exact ⟨formed, rejected, secured⟩
    | false =>
      generalize outcome : settledAs text current.context answer stepName mode = result
      have sound := formed.sound id
      rw [phase] at sound
      obtain ⟨_, ahead, _⟩ := sound
      have stepped := (step_systemStep claimLeaseMs formed (.settle id result)).formed formed
      obtain ⟨event, phase', settled⟩ : ∃ event phase', settle system.saga.clock result
          (.working mode current stepName rest) = some (event, phase') := by
        cases mode <;> cases result <;> exact ⟨_, _, rfl⟩
      have moved : (Saga.step checkoutSaga claimLeaseMs system.saga (.settle id result)).2 =
          system.saga.withRunner id { system.saga.runners id with phase := phase' } := by
        simp [Saga.step, crashed, phase, settled]
      rw [moved] at stepped
      simp only [checkoutStep, phase, outcome, moved]
      refine ⟨stepped, ?_, ?_⟩
      · intro other
        by_cases same : other = id
        · simp only [System.withRunner, same, Function.update_self]
          cases mode with
          | advancing =>
            cases result with
            | ok context =>
              cases settled
              trivial
            | error message =>
              cases settled
              obtain rfl := action_of_confirm text outcome
              exact ahead_fresh ahead
          | compensating error => cases result <;> cases settled <;> trivial
        · simpa only [System.withRunner, Function.update_of_ne same] using rejected other
      · intro runner claimed escrowId deposited
        have before := secured runner claimed escrowId deposited
        by_cases same : runner = id
        · subst same
          cases before with
          | waiting stored rest' working =>
            cases phase.symm.trans working
            have accepts := recorded current rest phase ⟨escrowId, deposited⟩
            cases result with
            | error message =>
              rw [settledAs, if_pos rfl] at outcome
              rw [outcome] at accepts
              cases accepts
            | ok context =>
              cases settled
              exact .accepted stored context system.saga.clock rest (by simp [System.withRunner])
          | accepted stored context now rest' saving => cases phase.symm.trans saving
          | saved record stored done status => exact .saved record stored done status
        · have kept : ((system.saga.withRunner id { system.saga.runners id with
              phase := phase' }).runners runner).phase = (system.saga.runners runner).phase := by
            simp only [System.withRunner, Function.update_of_ne same]
          cases before with
          | waiting stored rest' working => exact .waiting stored rest' (kept.trans working)
          | accepted stored context now rest' saving =>
            exact .accepted stored context now rest' (kept.trans saving)
          | saved record stored done status => exact .saved record stored done status
  | idle | creating | loading | looping | claiming | saving | settled | rereading | rescheduling
  | recovered =>
    simp only [checkoutStep, phase]
    exact ⟨formed, rejected, secured⟩

theorem unmoved_sheltered {system : CheckoutSystem} (sheltered : Sheltered system)
    (formed : Formed checkoutSaga after) (unmoved : Unmoved system.saga after) :
    Sheltered { system with
      saga := after } where
  formed
  rejected := unmoved.rejected sheltered.rejected
  secured runner current escrowId deposited :=
    unmoved.secured (sheltered.secured runner current escrowId deposited)

end Turns

theorem step_sheltered (text : Json → String) (claimLeaseMs : Nat → Nat) {system : CheckoutSystem}
    (sheltered : Sheltered system) {input : CheckoutInput} (recorded : Recorded text system input) :
    Sheltered (checkoutStep text claimLeaseMs system input) := by
  have formed (input : Saga.Input CheckoutContext) :
      Formed checkoutSaga (Saga.step checkoutSaga claimLeaseMs system.saga input).2 :=
    (step_systemStep claimLeaseMs sheltered.formed input).formed sheltered.formed
  cases input with
  | saga input =>
    cases input with
    | proceed id => exact proceed_sheltered text claimLeaseMs sheltered id recorded
    | settle => exact sheltered
    | tick elapsedMs =>
      exact unmoved_sheltered sheltered (formed (.tick elapsedMs)) ⟨rfl, fun _ => .inl rfl⟩
    | start id call =>
      refine unmoved_sheltered sheltered (formed (.start id call)) ?_
      by_cases idle : (system.saga.runners id).phase.isIdle = true
      · simp only [Saga.step, idle, if_true]
        exact .started idle
      · simp only [Saga.step, idle]
        exact .refl _
    | fire id timer =>
      refine unmoved_sheltered sheltered (formed (.fire id timer)) ?_
      cases found : system.saga.timers[timer]? with
      | none =>
        simp only [Saga.step, found]
        exact .refl _
      | some retry =>
        by_cases ready : (system.saga.runners id).phase.isIdle = true ∧ retry.due ≤ system.saga.clock
        · simp only [Saga.step, found, ready, and_self, if_true]
          exact .started ready.1
        · simp only [Saga.step, found, ready, if_false]
          exact .refl _
    | crash id =>
      refine unmoved_sheltered sheltered (formed (.crash id)) ⟨rfl, ?_⟩
      intro other
      refine .inl ?_
      by_cases same : other = id
      · simp [Saga.step, System.withRunner, same]
      · simp [Saga.step, System.withRunner, same]
  | respond id answer => exact respond_sheltered text claimLeaseMs sheltered id answer recorded
  | perform request escrowId =>
    cases found : system.sent[request]? with
    | none =>
      simp only [checkoutStep, found]
      exact sheltered
    | some asked =>
      simp only [checkoutStep, found]
      refine ⟨sheltered.formed, sheltered.rejected, ?_⟩
      intro runner current escrow deposited
      rcases List.mem_cons.mp deposited with new | old
      · cases new
        obtain ⟨stored, rest, phase⟩ := recorded runner current found
        exact .waiting stored rest phase
      · exact sheltered.secured runner current escrow old

/-- No failed checkout leaves a deposit behind, in every run in which every performed deposit is
answered so that the action accepts it, and is recorded before any other runner saves the saga. -/
theorem no_deposit_stranded (text : Json → String) (claimLeaseMs : Nat → Nat) (clock : Nat)
    (inputs : List CheckoutInput)
    (recorded : ∀ input older, input :: older <:+ inputs →
      Recorded text (checkoutRun text claimLeaseMs clock older) input) (sagaId : String) :
    ∀ older, older <:+ inputs → NothingStranded sagaId (checkoutRun text claimLeaseMs clock older) := by
  have sheltered : ∀ older, older <:+ inputs → Sheltered (checkoutRun text claimLeaseMs clock older) := by
    refine Run.along ⟨initial_formed checkoutSaga clock, fun _ => trivial, ?_⟩ ?_
    · intro runner current escrowId deposited
      cases deposited
    · intro input older within sheltered
      exact step_sheltered text claimLeaseMs sheltered (recorded input older within)
  intro older within
  exact (sheltered older within).nothing_stranded sagaId

def sampleText : Json → String
  | .string value => value
  | _ => "[object Object]"

def sampleCall : SagaCall CheckoutContext :=
  checkoutWorkflow "order-1" "source" "buyer" "seller" "checkout:order-1"

-- Newest first, like every run.
def depositPerformed : List CheckoutInput :=
  [ .perform 0 "7", .saga (.proceed 0), .saga (.proceed 0), .saga (.proceed 0), .saga (.proceed 0),
    .saga (.start 0 sampleCall) ]

-- The payments service's own reply to a deposit, which has no escrow id.
def unnamedEscrow : Answer :=
  .json 200 (.object
    [ ("data", .object
        [("txHash", .string "aa"), ("ledger", .number (.finite 7)), ("success", .bool true)]),
      ("error", .null) ])

def namedEscrow : Answer :=
  .json 200 (.object [("data", .object [("escrowId", .string "7"), ("txHash", .string "aa")])])

def strandedCheckout : List CheckoutInput :=
  .saga (.proceed 0) :: .saga (.proceed 0) :: .saga (.proceed 0) :: .respond 0 unnamedEscrow ::
    depositPerformed

def otherCall : SagaCall CheckoutContext :=
  checkoutWorkflow "order-2" "source" "buyer" "seller" "checkout:order-2"

def failedCheckout : List CheckoutInput :=
  [ .saga (.proceed 1), .saga (.proceed 1), .saga (.proceed 1), .respond 1 (.unavailable "fetch failed"),
    .saga (.proceed 1), .saga (.proceed 1), .saga (.proceed 1), .saga (.proceed 1),
    .saga (.start 1 otherCall) ]

-- Of two checkouts one fails with nothing deposited, and the other one's deposit is performed and saved.
def recordedCheckout : List CheckoutInput :=
  [ .saga (.proceed 0), .respond 0 namedEscrow, .perform 1 "7", .saga (.proceed 0), .saga (.proceed 0),
    .saga (.proceed 0), .saga (.proceed 0), .saga (.start 0 sampleCall) ] ++ failedCheckout

theorem unperformed_recorded {text : Json → String} {system : CheckoutSystem}
    (none : system.performed = []) (input : CheckoutInput)
    (kind : ∀ request escrowId, input ≠ .perform request escrowId) : Recorded text system input := by
  cases input with
  | perform request escrowId => exact absurd rfl (kind request escrowId)
  | respond runner answer =>
    rintro current rest _ ⟨escrowId, deposited⟩
    rw [none] at deposited
    cases deposited
  | saga input =>
    cases input with
    | proceed id =>
      rintro current draft next _ _ runner claimed _ ⟨⟨escrowId, deposited⟩, _⟩
      rw [none] at deposited
      cases deposited
    | tick | start | fire | settle | crash => trivial

theorem no_deposit_stranded_sample :
    ((checkoutRun sampleText (fun _ => 30000) 0 recordedCheckout).saga.store "checkout:order-2").map
        SagaRecord.status = some .failed ∧
    ∀ older, older <:+ recordedCheckout →
      NothingStranded "checkout:order-2" (checkoutRun sampleText (fun _ => 30000) 0 older) := by
  refine ⟨rfl, no_deposit_stranded sampleText (fun _ => 30000) 0 recordedCheckout ?_ "checkout:order-2"⟩
  intro input older within
  simp only [recordedCheckout, failedCheckout, List.cons_append, List.nil_append, List.suffix_cons_iff,
    List.suffix_nil, List.cons.injEq, reduceCtorEq, or_false] at within
  rcases within with ⟨rfl, rfl⟩ | ⟨rfl, rfl⟩ | ⟨rfl, rfl⟩ | unperformed
  · rintro current draft next _ _ runner claimed _ ⟨⟨escrowId, deposited⟩, _⟩
    rcases List.mem_cons.mp deposited with same | none
    · cases same
      rfl
    · cases none
  · intro current rest phase _
    cases phase
    rfl
  · intro runner current asked
    cases asked
    exact ⟨rfl, _, rfl⟩
  · -- Before the deposit nothing has been performed.
    apply unperformed_recorded
    · rcases unperformed with ⟨_, rfl⟩ | ⟨_, rfl⟩ | ⟨_, rfl⟩ | ⟨_, rfl⟩ | ⟨_, rfl⟩ | ⟨_, rfl⟩ | ⟨_, rfl⟩ |
        ⟨_, rfl⟩ | ⟨_, rfl⟩ | ⟨_, rfl⟩ | ⟨_, rfl⟩ | ⟨_, rfl⟩ | ⟨_, rfl⟩ | ⟨_, rfl⟩ <;> rfl
    · rintro request escrowId rfl
      simp at unperformed

theorem deposit_stranded :
    ¬ NothingStranded "checkout:order-1"
      (checkoutRun sampleText (fun _ => 30000) 0 strandedCheckout) := by
  intro refunded
  obtain ⟨refunder, claimed, member, _⟩ :=
    refunded ⟨_, rfl, rfl⟩ 0 _ "7" List.mem_cons_self rfl
  rcases List.mem_cons.mp member with same | none
  · cases same
  · cases none

end Delego.Checkout
