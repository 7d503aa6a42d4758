import Delego.Saga.Step

set_option autoImplicit false

namespace Delego.Saga

open Shared

variable {Context : Type} {definition : SagaDefinition} {record current draft : SagaRecord Context}
  {stepName error sagaId : String} {rest remaining : List String} {mode : Mode} {next : Next}
  {trace : List SagaEvent} {work : SagaWork} {clock : Nat}

def traceOf (sagaId : String) (receipts : List (SagaReceipt Context)) : List SagaEvent :=
  (receipts.filterMap Receipt.output).filter fun event => event.sagaId = sagaId

def SagaWork.successful : SagaWork → Bool
  | .acted | .compensated => true
  | .rejected | .compensationRejected => false

def successful (trace : List SagaEvent) : List (SagaWork × String) :=
  (trace.filter fun event => event.work.successful).map fun event => (event.work, event.step)

theorem successful_success {event : SagaEvent} (success : event.work.successful = true) :
    successful (event :: trace) = (event.work, event.step) :: successful trace := by
  simp [successful, success]

theorem successful_failure {event : SagaEvent} (failure : event.work.successful = false) :
    successful (event :: trace) = successful trace := by
  simp [successful, failure]

def acts (steps : List String) : List (SagaWork × String) := steps.map fun step => (.acted, step)

def compensations (steps : List String) : List (SagaWork × String) :=
  steps.map fun step => (.compensated, step)

/-- What a record says of the work so far: its completed steps and the undone ones after them have
all been done once, in order, and the undone ones have been compensated once, from the last. -/
structure Progress (definition : SagaDefinition) (trace : List SagaEvent)
    (record : SagaRecord Context) : Prop where
  steps : ∃ undone,
    successful trace = compensations undone ++ (acts (record.completedSteps ++ undone)).reverse ∧
      (record.completedSteps ++ undone) <+: definition.stepOrder ∧
      (undone ≠ [] → record.status = .compensating ∨ record.status = .failed)
  broken : record.status = .compensating ∨ record.status = .failed →
    ∃ event ∈ trace, event.work = .rejected

theorem Progress.unstarted (running : record.status = .running) (nothing : record.completedSteps = []) :
    Progress definition [] record where
  steps := ⟨[], by simp [successful, acts, compensations, nothing], by simp [nothing], by simp⟩
  broken := by simp [running]

theorem Progress.congr (progress : Progress definition trace current)
    (steps : record.completedSteps = current.completedSteps) (status : record.status = current.status) :
    Progress definition trace record := by
  constructor
  · simpa only [steps, status] using progress.steps
  · simpa only [status] using progress.broken

theorem Progress.done (progress : Progress definition trace current)
    (running : current.status = .running) :
    successful trace = (acts current.completedSteps).reverse := by
  obtain ⟨undone, done, _, failing⟩ := progress.steps
  have nothing : undone = [] := by
    by_contra some
    simpa [running] using failing some
  simpa [nothing, compensations] using done

theorem Progress.stays_broken (progress : Progress definition trace current) (event : SagaEvent)
    (failing : current.status = .compensating ∨ current.status = .failed) :
    ∃ rejection ∈ event :: trace, rejection.work = .rejected := by
  obtain ⟨rejection, member, rejected⟩ := progress.broken failing
  exact ⟨rejection, List.mem_cons_of_mem _ member, rejected⟩

theorem Progress.acted {context : Context} {now : Nat} (progress : Progress definition trace current)
    (ahead : Ahead definition current (stepName :: rest) .advancing) :
    Progress definition (⟨sagaId, stepName, .acted⟩ :: trace) (current.acted stepName context now) := by
  have done := progress.done ahead.1
  constructor
  · refine ⟨[], ?_, ?_, by simp⟩
    · rw [successful_success rfl, done]
      simp [SagaRecord.acted, compensations, acts]
    · rw [List.append_nil, ← ahead.2]
      exact ⟨rest, by simp [SagaRecord.acted]⟩
  · simp [SagaRecord.acted, ahead.1]

theorem Progress.rejected {message : String} {now : Nat}
    (progress : Progress definition trace current)
    (ahead : Ahead definition current remaining .advancing) :
    Progress definition (⟨sagaId, stepName, .rejected⟩ :: trace) (current.rejected message now) := by
  have done := progress.done ahead.1
  constructor
  · refine ⟨[], ?_, ?_, by simp⟩
    · rw [successful_failure rfl, done]
      simp [SagaRecord.rejected, compensations]
    · rw [List.append_nil, ← ahead.2]
      exact List.prefix_append ..
  · exact fun _ => ⟨_, List.mem_cons_self, rfl⟩

theorem Progress.compensated {context : Context} {now : Nat}
    (progress : Progress definition trace current)
    (ahead : Ahead definition current (stepName :: rest) (.compensating error)) :
    Progress definition (⟨sagaId, stepName, .compensated⟩ :: trace)
      (current.compensated stepName context now) := by
  obtain ⟨undone, done, within, _⟩ := progress.steps
  obtain ⟨steps, filtered⟩ := ahead.split
  have same : (current.compensated stepName context now).completedSteps ++ stepName :: undone =
      current.completedSteps ++ undone := by
    rw [SagaRecord.compensated, filtered, steps]
    simp
  constructor
  · refine ⟨stepName :: undone, ?_, same ▸ within, fun _ => .inl ahead.1⟩
    rw [same, successful_success rfl, done]
    rfl
  · intro _
    exact progress.stays_broken _ (.inl ahead.1)

theorem Progress.released {now : Nat} (progress : Progress definition trace current) :
    Progress definition (⟨sagaId, stepName, .compensationRejected⟩ :: trace)
      (current.released now) := by
  obtain ⟨undone, done, within⟩ := progress.steps
  constructor
  · exact ⟨undone, (successful_failure rfl).trans done, within⟩
  · intro failing
    exact progress.stays_broken _ failing

theorem Progress.completed {now : Nat} (progress : Progress definition trace current)
    (ahead : Ahead definition current [] .advancing) :
    Progress definition trace (current.completed now) := by
  have done := progress.done ahead.1
  constructor
  · refine ⟨[], ?_, ?_, by simp⟩
    · rw [done]
      simp [SagaRecord.completed, compensations]
    · rw [List.append_nil, ← ahead.2]
      exact List.prefix_append ..
  · simp [SagaRecord.completed]

theorem Progress.failed {now : Nat} (progress : Progress definition trace current)
    (ahead : Ahead definition current [] (.compensating error)) :
    Progress definition trace (current.failed now) := by
  obtain ⟨undone, done, within, _⟩ := progress.steps
  exact
    { steps := ⟨undone, done, within, fun _ => .inr rfl⟩
      broken := fun _ => progress.broken (.inl ahead.1) }

theorem Progress.settled (progress : Progress definition trace current)
    (settles : Settles current stepName rest mode work next draft)
    (ahead : Ahead definition current (stepName :: rest) mode) :
    Progress definition (⟨sagaId, stepName, work⟩ :: trace) draft := by
  cases settles with
  | acted => exact progress.acted ahead
  | rejected => exact progress.rejected ahead
  | compensated => exact progress.compensated ahead
  | compensationRejected => exact progress.released

-- A save that gives no claim up: the claim of the next step, or the end of the saga.
theorem Progress.written (progress : Progress definition trace current)
    (write : Write definition clock current next draft) (kind : next.afterWork = false) :
    Progress definition trace draft := by
  cases write with
  | claim => exact progress.congr rfl rfl
  | completed ahead => exact progress.completed ahead
  | failed ahead => exact progress.failed ahead
  | acted | rejected | compensated | released => cases kind

end Delego.Saga
