import Delego.Saga.Coordinator
import Delego.Shared.Run

set_option autoImplicit false

namespace Delego.Saga

open Shared

variable {Context : Type} {definition : SagaDefinition} {clock clock' : Nat}
  {store store' : SagaStore Context} {record current draft : SagaRecord Context} {mode : Mode}
  {stepName error : String} {rest remaining : List String} {next : Next}

structure RecordOk (definition : SagaDefinition) (record : SagaRecord Context) : Prop where
  ordered : record.completedSteps <+: definition.stepOrder
  all : record.status = .completed → record.completedSteps = definition.stepOrder
  none : record.status = .failed → record.completedSteps = []

/-- The steps a loop still has to take are exactly those its record leaves to it. -/
def Ahead (definition : SagaDefinition) (record : SagaRecord Context) (remaining : List String) :
    Mode → Prop
  | .advancing => record.status = .running ∧
      record.completedSteps ++ remaining = definition.stepOrder
  | .compensating _ => record.status = .compensating ∧
      record.completedSteps <+: definition.stepOrder ∧ record.completedSteps.reverse = remaining

theorem Ahead.recordOk (ahead : Ahead definition record remaining mode) :
    RecordOk definition record := by
  cases mode with
  | advancing =>
    obtain ⟨status, steps⟩ := ahead
    exact
      { ordered := ⟨remaining, steps⟩
        all := fun other => by cases status.symm.trans other
        none := fun other => by cases status.symm.trans other }
  | compensating error =>
    obtain ⟨status, ordered, _⟩ := ahead
    exact
      { ordered
        all := fun other => by cases status.symm.trans other
        none := fun other => by cases status.symm.trans other }

theorem Ahead.not_terminal (ahead : Ahead definition record remaining mode) :
    record.status.terminal = false := by
  cases mode with
  | advancing => simp [ahead.1, SagaStatus.terminal]
  | compensating error => simp [ahead.1, SagaStatus.terminal]

theorem Ahead.unique {other : Mode} {left : List String}
    (ahead : Ahead definition record remaining mode) (again : Ahead definition record left other) :
    remaining = left := by
  cases mode with
  | advancing =>
    cases other with
    | advancing => exact List.append_cancel_left (ahead.2.trans again.2.symm)
    | compensating error => cases ahead.1.symm.trans again.1
  | compensating error =>
    cases other with
    | advancing => cases ahead.1.symm.trans again.1
    | compensating error' => exact ahead.2.2.symm.trans again.2.2

theorem Ahead.known (ahead : Ahead definition record (stepName :: rest) mode) :
    stepName ∈ definition.stepOrder := by
  cases mode with
  | advancing => simp [← ahead.2]
  | compensating error =>
    apply ahead.2.1.subset
    rw [← List.mem_reverse, ahead.2.2]
    exact List.mem_cons_self

theorem filter_remaining {completed remaining : List String}
    (distinct : (completed ++ remaining).Nodup) :
    (completed ++ remaining).filter (fun name => name ∉ completed) = remaining := by
  rw [List.filter_append, List.filter_eq_nil_iff.mpr, List.nil_append, List.filter_eq_self]
  · intro name member
    have apart := (List.nodup_append.mp distinct).2.2
    simp only [decide_not, Bool.not_eq_eq_eq_not, Bool.not_true, decide_eq_false_iff_not]
    exact fun done => apart name done name member rfl
  · simp

theorem enter_ahead (ok : RecordOk definition record) :
    enter definition record = .settled (.ok record) ∨
      ∃ mode remaining, enter definition record = .looping mode record remaining ∧
        Ahead definition record remaining mode := by
  obtain ⟨left, steps⟩ := ok.ordered
  cases status : record.status with
  | completed | failed => exact .inl (by simp [enter, status, SagaStatus.terminal])
  | running =>
    refine .inr ⟨.advancing, left, ?_, status, steps⟩
    have distinct := definition.distinct
    rw [← steps] at distinct
    have remaining := filter_remaining distinct
    rw [steps] at remaining
    rw [enter, advance, remaining, if_neg (by simp [status, SagaStatus.terminal]),
      if_neg (by simp [status])]
  | compensating =>
    refine .inr ⟨.compensating (record.error.getD "Saga failed"), record.completedSteps.reverse, ?_,
      status, ok.ordered, rfl⟩
    simp [enter, advance, compensate, status, SagaStatus.terminal]

def Claimed (record : SagaRecord Context) (stepName : String) : Prop :=
  record.currentStep = some stepName ∧ record.claimExpiresAt.isSome = true

-- What the lease test has established, once passed: the clock does not go back.
def Free (clock : Nat) (record : SagaRecord Context) (stepName : String) : Prop :=
  ∀ claimExpiresAt, record.currentStep = some stepName →
    record.claimExpiresAt = some claimExpiresAt → claimExpiresAt ≤ clock

/-- The writes a coordinator makes, with what is known of the record it makes them from. -/
inductive Write (definition : SagaDefinition) (clock : Nat) (current : SagaRecord Context) :
    Next → SagaRecord Context → Prop
  | claim {mode : Mode} {stepName : String} {rest : List String} {claimExpiresAt now : Nat}
      (ahead : Ahead definition current (stepName :: rest) mode)
      (free : Free clock current stepName) :
      Write definition clock current (.work mode stepName rest)
        (current.claimed stepName claimExpiresAt now)
  | acted {stepName : String} {rest : List String} {context : Context} {now : Nat}
      (ahead : Ahead definition current (stepName :: rest) .advancing)
      (claimed : Claimed current stepName) :
      Write definition clock current (.again .advancing rest)
        (current.acted stepName context now)
  | rejected {stepName : String} {rest : List String} {message : String} {now : Nat}
      (ahead : Ahead definition current (stepName :: rest) .advancing)
      (claimed : Claimed current stepName) :
      Write definition clock current (.compensate message) (current.rejected message now)
  | compensated {error stepName : String} {rest : List String} {context : Context} {now : Nat}
      (ahead : Ahead definition current (stepName :: rest) (.compensating error))
      (claimed : Claimed current stepName) :
      Write definition clock current (.again (.compensating error) rest)
        (current.compensated stepName context now)
  | released {error stepName message : String} {rest : List String} {now : Nat}
      (ahead : Ahead definition current (stepName :: rest) (.compensating error))
      (claimed : Claimed current stepName) :
      Write definition clock current (.abort message) (current.released now)
  | completed {now : Nat} (ahead : Ahead definition current [] .advancing) :
      Write definition clock current .finish (current.completed now)
  | failed {error : String} {now : Nat} (ahead : Ahead definition current [] (.compensating error)) :
      Write definition clock current .finish (current.failed now)

theorem Free.later (free : Free clock record stepName) (later : clock ≤ clock') :
    Free clock' record stepName :=
  fun claimExpiresAt same claim => Nat.le_trans (free claimExpiresAt same claim) later

theorem Write.later (write : Write definition clock current next draft) (later : clock ≤ clock') :
    Write definition clock' current next draft := by
  cases write with
  | claim ahead free => exact .claim ahead (free.later later)
  | acted ahead claimed => exact .acted ahead claimed
  | rejected ahead claimed => exact .rejected ahead claimed
  | compensated ahead claimed => exact .compensated ahead claimed
  | released ahead claimed => exact .released ahead claimed
  | completed ahead => exact .completed ahead
  | failed ahead => exact .failed ahead

theorem Write.sagaId (write : Write definition clock current next draft) :
    draft.sagaId = current.sagaId := by
  cases write <;> rfl

theorem Write.version (write : Write definition clock current next draft) :
    draft.version = current.version := by
  cases write <;> rfl

theorem Write.ahead (write : Write definition clock current next draft) :
    ∃ remaining mode, Ahead definition current remaining mode := by
  cases write with
  | claim ahead | acted ahead | rejected ahead | compensated ahead | released ahead
  | completed ahead | failed ahead => exact ⟨_, _, ahead⟩

def SagaRecord.bumped (record : SagaRecord Context) : SagaRecord Context :=
  { record with
    version := record.version + 1 }

theorem Ahead.acted {context : Context} {now : Nat}
    (ahead : Ahead definition current (stepName :: rest) .advancing) :
    Ahead definition (current.acted stepName context now).bumped rest .advancing := by
  constructor
  · exact ahead.1
  · simpa [SagaRecord.acted, SagaRecord.bumped] using ahead.2

-- The names differ, so the filter takes off the last step and nothing else.
theorem Ahead.split (ahead : Ahead definition current (stepName :: rest) (.compensating error)) :
    current.completedSteps = rest.reverse ++ [stepName] ∧
      (current.completedSteps.filter fun name => name ≠ stepName) = rest.reverse := by
  have steps : current.completedSteps = rest.reverse ++ [stepName] := by
    rw [← List.reverse_cons, ← ahead.2.2, List.reverse_reverse]
  have distinct := definition.distinct.sublist ahead.2.1.sublist
  rw [steps] at distinct ⊢
  have apart := (List.nodup_append.mp distinct).2.2
  refine ⟨rfl, ?_⟩
  rw [List.filter_append, List.filter_eq_self.mpr, List.filter_eq_nil_iff.mpr, List.append_nil]
  · simp
  · intro name member
    exact decide_eq_true (apart name member stepName (List.mem_singleton.mpr rfl))

theorem Ahead.compensated {context : Context} {now : Nat}
    (ahead : Ahead definition current (stepName :: rest) (.compensating error)) :
    Ahead definition (current.compensated stepName context now).bumped rest
      (.compensating error) := by
  obtain ⟨steps, filtered⟩ := ahead.split
  refine ⟨ahead.1, ?_, ?_⟩
  · rw [SagaRecord.bumped, SagaRecord.compensated, filtered]
    exact (steps ▸ List.prefix_append rest.reverse [stepName]).trans ahead.2.1
  · rw [SagaRecord.bumped, SagaRecord.compensated, filtered, List.reverse_reverse]

theorem Ahead.rejected {message : String} {now : Nat}
    (ahead : Ahead definition current remaining .advancing) :
    Ahead definition (current.rejected message now).bumped current.completedSteps.reverse
      (.compensating message) :=
  ⟨rfl, ⟨remaining, ahead.2⟩, rfl⟩

theorem Ahead.claimed {claimExpiresAt now : Nat} (ahead : Ahead definition current remaining mode) :
    Ahead definition (current.claimed stepName claimExpiresAt now).bumped remaining mode := by
  cases mode with
  | advancing => exact ahead
  | compensating error => exact ahead

theorem Ahead.released {now : Nat} (ahead : Ahead definition current remaining mode) :
    Ahead definition (current.released now).bumped remaining mode := by
  cases mode with
  | advancing => exact ahead
  | compensating error => exact ahead

theorem Write.recordOk (write : Write definition clock current next draft) :
    RecordOk definition draft.bumped := by
  cases write with
  | claim ahead => exact ahead.claimed.recordOk
  | acted ahead => exact ahead.acted.recordOk
  | rejected ahead => exact ahead.rejected.recordOk
  | compensated ahead => exact ahead.compensated.recordOk
  | released ahead => exact ahead.released.recordOk
  | completed ahead =>
    have steps : current.completedSteps = definition.stepOrder := by
      simpa using ahead.2
    exact
      { ordered := steps ▸ List.prefix_rfl
        all := fun _ => steps
        none := by
          intro other
          cases other }
  | failed ahead =>
    have steps : current.completedSteps = [] := List.reverse_eq_nil_iff.mp ahead.2.2
    exact
      { ordered := steps ▸ List.nil_prefix
        all := by
          intro other
          cases other
        none := fun _ => steps }

inductive Moves : SagaStatus → SagaStatus → Prop
  | completed : Moves .running .completed
  | compensating : Moves .running .compensating
  | failed : Moves .compensating .failed

theorem Write.moves (write : Write definition clock current next draft) :
    draft.status = current.status ∨ Moves current.status draft.status := by
  cases write with
  | claim | acted | compensated | released => exact .inl rfl
  | rejected ahead =>
    right
    rw [ahead.1]
    exact .compensating
  | completed ahead =>
    right
    rw [ahead.1]
    exact .completed
  | failed ahead =>
    right
    rw [ahead.1]
    exact .failed

/-- What is known of the locals of a runner: its record is a copy of a stored one, and the steps it
has left fit that record. -/
def Sound (definition : SagaDefinition) (clock : Nat) (store : SagaStore Context) :
    Phase Context → Prop
  | .looping mode current remaining =>
    Copied SagaRecord.version (store current.sagaId) current ∧ Ahead definition current remaining mode
  | .claiming mode current stepName rest =>
    Copied SagaRecord.version (store current.sagaId) current ∧
      Ahead definition current (stepName :: rest) mode ∧ Free clock current stepName
  | .working mode current stepName rest =>
    Copied SagaRecord.version (store current.sagaId) current ∧
      Ahead definition current (stepName :: rest) mode ∧ Claimed current stepName
  | .saving current draft next =>
    Copied SagaRecord.version (store current.sagaId) current ∧
      Write definition clock current next draft
  | .creating record => record.status = .running ∧ record.completedSteps = []
  | _ => True

theorem Sound.later {phase : Phase Context} (sound : Sound definition clock store phase)
    (later : clock ≤ clock')
    (grows : ∀ sagaId, Grows SagaRecord.version (store sagaId) (store' sagaId)) :
    Sound definition clock' store' phase := by
  cases phase with
  | looping => exact ⟨sound.1.grow (grows _), sound.2⟩
  | claiming => exact ⟨sound.1.grow (grows _), sound.2.1, sound.2.2.later later⟩
  | working => exact ⟨sound.1.grow (grows _), sound.2⟩
  | saving => exact ⟨sound.1.grow (grows _), sound.2.later later⟩
  | creating => exact sound
  | idle | loading | settled | rereading | rescheduling | recovered => trivial

theorem Write.stored_sound (write : Write definition clock current next draft)
    (held : store draft.sagaId = some draft.bumped) :
    Sound definition clock store (stored draft.bumped next) := by
  have copied : Copied SagaRecord.version (store draft.sagaId) draft.bumped :=
    held ▸ Copied.here SagaRecord.version draft.bumped
  cases write with
  | claim ahead => exact ⟨copied, ahead.claimed, rfl, rfl⟩
  | acted ahead => exact ⟨copied, ahead.acted⟩
  | rejected ahead => exact ⟨copied, ahead.rejected⟩
  | compensated ahead => exact ⟨copied, ahead.compensated⟩
  | released | completed | failed => trivial

end Delego.Saga
