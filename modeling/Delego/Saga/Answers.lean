import Delego.Saga.RecordInvariant

set_option autoImplicit false

namespace Delego.Saga

open Shared

variable {Context : Type} {definition : SagaDefinition} {claimLeaseMs clock : Nat} {recovering : Bool}
  {store : SagaStore Context} {phase : Phase Context} {record : SagaRecord Context}

section Concerns

/-- What may be stored for a saga, and the part of it that a runner may hold: `kept` and `held` say of
which orders the sagas are. -/
structure Naming (kept held : String → String → Prop) : Prop where
  stored : ∀ sagaId orderId, held sagaId orderId → kept sagaId orderId
  unique : ∀ sagaId orderId other, held sagaId orderId → kept sagaId other → held sagaId other

variable (kept held : String → String → Prop)

def SagaRecord.Named (naming : String → String → Prop) (record : SagaRecord Context) : Prop :=
  naming record.sagaId record.orderId

-- A saga that is about to be read may turn out to be of any order it is kept for.
def Phase.Concerns : Phase Context → Prop
  | .creating record | .looping _ record _ | .claiming _ record _ _ | .working _ record _ _
  | .rescheduling record | .settled (.ok record) => record.Named held
  | .saving current draft _ => current.Named held ∧ draft.Named held
  | .loading sagaId | .rereading sagaId => ∀ orderId, kept sagaId orderId → held sagaId orderId
  | .idle | .settled (.error _) | .recovered => True

def SagaStore.Keeps (store : SagaStore Context) : Prop :=
  ∀ sagaId record, store sagaId = some record → record.sagaId = sagaId ∧ record.Named kept

variable {kept held} {mode : Mode} {next : Next} {remaining : List String} {current draft : SagaRecord Context}

theorem enter_concerns (named : record.Named held) : (enter definition record).Concerns kept held := by
  unfold enter advance compensate
  split
  · exact named
  · split
    · exact named
    · exact named

theorem loop_concerns (named : current.Named held) :
    (loop definition clock mode current remaining).Concerns kept held := by
  cases remaining with
  | nil => cases mode <;> exact ⟨named, named⟩
  | cons stepName rest =>
    simp only [loop]
    split
    · cases mode with
      | advancing => trivial
      | compensating error => exact ⟨named, named⟩
    · split
      · exact named
      · exact named

theorem lost_concerns (named : current.Named held) : (lost current next).Concerns kept held := by
  cases next with
  | work => exact named
  | again | compensate | abort | finish => trivial

theorem stored_concerns (named : draft.Named held) : (stored draft next).Concerns kept held := by
  cases next with
  | work | again | compensate | finish => exact named
  | abort => trivial

theorem SagaStore.Keeps.update (keeps : store.Keeps kept) (written : SagaRecord Context)
    (named : written.Named kept) :
    SagaStore.Keeps kept (Function.update store written.sagaId (some written)) := by
  intro sagaId found held
  by_cases same : sagaId = written.sagaId
  · subst same
    have own : written = found := by simpa using held
    rw [← own]
    exact ⟨rfl, named⟩
  · exact keeps sagaId found (by simpa [same] using held)

theorem save_concerns (keeps : store.Keeps kept) (naming : Naming kept held) (named : draft.Named held)
    {saved : SagaRecord Context} {store' : SagaStore Context}
    (done : store.save draft = some (saved, store')) : saved.Named held ∧ store'.Keeps kept := by
  unfold SagaStore.save at done
  split at done
  · cases done
  · split at done
    · cases done
    · cases done
      exact ⟨named, keeps.update { draft with version := draft.version + 1 } (naming.stored _ _ named)⟩

theorem proceed_concerns (naming : Naming kept held) (keeps : store.Keeps kept)
    (concerns : phase.Concerns kept held) :
    (proceed definition claimLeaseMs clock recovering store phase).2.1.Concerns kept held ∧
      (proceed definition claimLeaseMs clock recovering store phase).1.Keeps kept := by
  cases phase with
  | creating record =>
    cases found : store record.sagaId with
    | some existing =>
      obtain ⟨same, named⟩ := keeps _ _ found
      have ours : existing.Named held := by
        have kept' := named
        rw [SagaRecord.Named, same] at kept' ⊢
        exact naming.unique _ _ _ concerns kept'
      simp only [proceed, SagaStore.createIfNotExists, found]
      exact ⟨enter_concerns ours, keeps⟩
    | none =>
      simp only [proceed, SagaStore.createIfNotExists, found]
      exact ⟨enter_concerns concerns, keeps.update { record with version := 0 }
        (naming.stored _ _ concerns)⟩
  | loading sagaId =>
    cases found : store sagaId with
    | none =>
      simp only [proceed, SagaStore.get, found]
      exact ⟨trivial, keeps⟩
    | some record =>
      obtain ⟨same, named⟩ := keeps _ _ found
      simp only [proceed, SagaStore.get, found]
      refine ⟨enter_concerns ?_, keeps⟩
      rw [SagaRecord.Named, same] at named ⊢
      exact concerns _ named
  | looping mode current remaining => exact ⟨loop_concerns concerns, keeps⟩
  | claiming mode current stepName rest => exact ⟨⟨concerns, concerns⟩, keeps⟩
  | saving current draft next =>
    cases done : store.save draft with
    | none =>
      simp only [proceed, done]
      exact ⟨lost_concerns concerns.1, keeps⟩
    | some result =>
      obtain ⟨saved, store'⟩ := result
      obtain ⟨named, keeps'⟩ := save_concerns keeps naming concerns.2 done
      simp only [proceed, done]
      exact ⟨stored_concerns named, keeps'⟩
  | settled result =>
    cases result with
    | error message =>
      simp only [proceed]
      split
      · exact ⟨trivial, keeps⟩
      · exact ⟨trivial, keeps⟩
    | ok record =>
      simp only [proceed]
      split
      · dsimp only
        split
        · exact ⟨fun orderId => naming.unique _ _ _ concerns, keeps⟩
        · exact ⟨trivial, keeps⟩
      · exact ⟨concerns, keeps⟩
  | rereading sagaId =>
    cases found : store sagaId with
    | none =>
      simp only [proceed, SagaStore.get, found]
      exact ⟨trivial, keeps⟩
    | some record =>
      obtain ⟨same, named⟩ := keeps _ _ found
      simp only [proceed, SagaStore.get, found]
      refine ⟨?_, keeps⟩
      rw [SagaRecord.Named, same] at named
      show record.Named held
      rw [SagaRecord.Named, same]
      exact concerns _ named
  | rescheduling latest => exact ⟨trivial, keeps⟩
  | idle | recovered => exact ⟨trivial, keeps⟩
  | working => exact ⟨concerns, keeps⟩

theorem settle_concerns {outcome : Except String Context} {event : SagaEvent} {phase' : Phase Context}
    (done : settle clock outcome phase = some (event, phase')) (concerns : phase.Concerns kept held) :
    phase'.Concerns kept held := by
  cases phase with
  | working mode current stepName rest =>
    cases mode with
    | advancing => cases outcome <;> cases done <;> exact ⟨concerns, concerns⟩
    | compensating error => cases outcome <;> cases done <;> exact ⟨concerns, concerns⟩
  | _ => cases done

def Runner.Holds (kept claim : String → String → Prop) (runner : Runner Context) : Prop :=
  runner.phase.Concerns kept (if runner.recovering then kept else claim)

theorem naming_whole : Naming kept kept where
  stored _ _ named := named
  unique _ _ _ _ named := named

theorem Naming.either (naming : Naming kept held) (recovering : Bool) :
    Naming kept (if recovering then kept else held) := by
  cases recovering
  · exact naming
  · exact naming_whole

theorem recovery_holds (clock : Nat) (sagaId : String) :
    (begin definition clock (.recoverOne sagaId) : Runner Context).Holds kept held :=
  fun _ named => named

section Systems

variable {claim : Nat → String → String → Prop} {system : System Context}

def System.Hold (kept : String → String → Prop) (claim : Nat → String → String → Prop)
    (system : System Context) : Prop :=
  ∀ id, (system.runners id).Holds kept (claim id)

theorem System.Hold.withRunner (hold : system.Hold kept claim) {id : Nat} {runner : Runner Context}
    (own : runner.Holds kept (claim id)) : (system.withRunner id runner).Hold kept claim := by
  intro other
  by_cases same : other = id
  · subst same
    simpa [System.withRunner] using own
  · simpa [System.withRunner, same] using hold other

def Input.starts : Input Context → Bool
  | .start .. => true
  | _ => false

theorem step_hold (naming : ∀ id, Naming kept (claim id)) (claimLeaseMs : Nat → Nat)
    (keeps : system.store.Keeps kept) (hold : system.Hold kept claim) (input : Input Context)
    (underway : input.starts = false) :
    (step definition claimLeaseMs system input).2.Hold kept claim ∧
      (step definition claimLeaseMs system input).2.store.Keeps kept := by
  cases input with
  | tick elapsedMs => exact ⟨hold, keeps⟩
  | start id call => cases underway
  | fire id timer =>
    cases found : system.timers[timer]? with
    | none =>
      simp only [step, found]
      exact ⟨hold, keeps⟩
    | some retry =>
      simp only [step, found]
      split
      · exact ⟨hold.withRunner (recovery_holds _ _), keeps⟩
      · exact ⟨hold, keeps⟩
  | proceed id =>
    simp only [step]
    split
    · exact ⟨hold, keeps⟩
    · have naming' := (naming id).either (system.runners id).recovering
      exact ⟨hold.withRunner (proceed_concerns naming' keeps (hold id)).1,
        (proceed_concerns naming' keeps (hold id)).2⟩
  | settle id outcome =>
    simp only [step]
    split
    · exact ⟨hold, keeps⟩
    · split
      · exact ⟨hold, keeps⟩
      · next settled => exact ⟨hold.withRunner (settle_concerns settled (hold id)), keeps⟩
  | crash id => exact ⟨hold.withRunner (hold id), keeps⟩

end Systems

end Concerns

section Settled

def Phase.Told (store : SagaStore Context) : Phase Context → Prop
  | .settled (.ok record) => record.status.terminal = true → store record.sagaId = some record
  | _ => True

variable {mode : Mode} {next : Next} {remaining : List String} {current draft : SagaRecord Context}

theorem enter_told (found : store record.sagaId = some record) : (enter definition record).Told store := by
  unfold enter advance compensate
  split
  · exact fun _ => found
  · split
    · trivial
    · trivial

theorem loop_told (running : current.status.terminal = false) :
    (loop definition clock mode current remaining).Told store := by
  cases remaining with
  | nil => cases mode <;> trivial
  | cons stepName rest =>
    simp only [loop]
    split
    · cases mode <;> trivial
    · split
      · intro terminal
        cases running.symm.trans terminal
      · trivial

theorem lost_told (running : current.status.terminal = false) : (lost current next).Told store := by
  cases next with
  | work =>
    intro terminal
    cases running.symm.trans terminal
  | again | compensate | abort | finish => trivial

theorem stored_told (found : store draft.sagaId = some draft) : (stored draft next).Told store := by
  cases next with
  | finish => exact fun _ => found
  | work | again | compensate | abort => trivial

theorem proceed_told (formed : StoreOk definition store) (sound : Sound definition clock store phase)
    (told : phase.Told store) :
    (proceed definition claimLeaseMs clock recovering store phase).2.1.Told
      (proceed definition claimLeaseMs clock recovering store phase).1 := by
  cases phase with
  | creating record =>
    cases found : store record.sagaId with
    | some existing =>
      simp only [proceed, SagaStore.createIfNotExists, found]
      refine enter_told ?_
      rw [formed.keyed _ _ found]
      exact found
    | none =>
      simp only [proceed, SagaStore.createIfNotExists, found]
      exact enter_told (by simp)
  | loading sagaId =>
    cases found : store sagaId with
    | none =>
      simp only [proceed, SagaStore.get, found]
      trivial
    | some record =>
      simp only [proceed, SagaStore.get, found]
      refine enter_told ?_
      rw [formed.keyed _ _ found]
      exact found
  | looping mode current remaining => exact loop_told sound.2.not_terminal
  | saving current draft next =>
    obtain ⟨remaining, mode, ahead⟩ := sound.2.ahead
    cases done : store.save draft with
    | none =>
      simp only [proceed, done]
      exact lost_told ahead.not_terminal
    | some result =>
      simp only [proceed, done]
      unfold SagaStore.save at done
      split at done
      · cases done
      · split at done
        · cases done
        · cases done
          exact stored_told (by simp)
  | settled result =>
    cases result with
    | error message =>
      simp only [proceed]
      split <;> trivial
    | ok record =>
      simp only [proceed]
      split
      · dsimp only
        split <;> trivial
      · exact told
  | rereading sagaId =>
    cases found : store sagaId <;> simp only [proceed, SagaStore.get, found] <;> trivial
  | idle | claiming | working | rescheduling | recovered => trivial

theorem settle_told {outcome : Except String Context} {event : SagaEvent} {phase' : Phase Context}
    (settled : settle clock outcome phase = some (event, phase')) : phase'.Told store := by
  cases phase with
  | working mode current stepName rest =>
    cases mode <;> cases outcome <;> cases settled <;> trivial
  | _ => cases settled

theorem Phase.Told.later {before after : System Context} {event : Option SagaEvent}
    (turn : SystemStep definition before event after) (told : phase.Told before.store) :
    phase.Told after.store := by
  cases phase with
  | settled result =>
    cases result with
    | error message => trivial
    | ok record =>
      intro terminal
      obtain ⟨next, found, succeeds⟩ := turn.succeeds (told terminal)
      rw [found, succeeds.terminal terminal]
  | _ => trivial

def System.Tell (system : System Context) : Prop := ∀ id, (system.runners id).phase.Told system.store

theorem begin_told (call : SagaCall Context) : (begin definition clock call).phase.Told store := by
  cases call <;> trivial

theorem step_tell {system : System Context} (claimLeaseMs : Nat → Nat) (formed : Formed definition system)
    (tell : system.Tell) (input : Input Context) : (step definition claimLeaseMs system input).2.Tell := by
  have turn := step_systemStep claimLeaseMs formed input
  intro other
  by_cases own : input.runner = some other
  · cases input with
    | tick => cases own
    | start id call =>
      cases own
      simp only [step]
      split
      · simpa [System.withRunner] using begin_told call
      · exact tell other
    | fire id timer =>
      cases own
      cases found : system.timers[timer]? with
      | none => simpa only [step, found] using tell other
      | some retry =>
        simp only [step, found]
        split
        · simpa [System.withRunner] using begin_told (.recoverOne retry.sagaId)
        · exact tell other
    | proceed id =>
      cases own
      simp only [step]
      split
      · exact tell other
      · simpa [System.withRunner] using proceed_told formed.storeOk (formed.sound other) (tell other)
    | settle id outcome =>
      cases own
      simp only [step]
      split
      · exact tell other
      · split
        · exact tell other
        · next settled => simpa [System.withRunner] using settle_told settled
    | crash id =>
      cases own
      simpa [step, System.withRunner] using tell other
  · rw [step_frame definition claimLeaseMs system own]
    exact (tell other).later turn

end Settled

section Finished

variable {system : System Context} {id : Nat}

theorem step_finished (claimLeaseMs : Nat → Nat) (formed : Formed definition system)
    (found : system.store record.sagaId = some record) (finished : record.status.terminal = true)
    (input : Input Context) :
    (step definition claimLeaseMs system input).2.store record.sagaId = some record := by
  obtain ⟨later, stored, succeeds⟩ := (step_systemStep claimLeaseMs formed input).succeeds found
  rw [stored, succeeds.terminal finished]

/-- A call on a finished saga that has not read the store yet, or has settled with what is stored. -/
def Runner.Closes (record : SagaRecord Context) (runner : Runner Context) : Prop :=
  runner.recovering = false →
    match runner.phase with
    | .idle => True
    | .creating named => named.sagaId = record.sagaId
    | .loading sagaId => sagaId = record.sagaId
    | .settled result => result = .ok record
    | _ => False

theorem proceed_closes {runner : Runner Context} (claimLeaseMs : Nat)
    (found : store record.sagaId = some record) (finished : record.status.terminal = true)
    (closes : runner.Closes record) :
    Runner.Closes record { runner with
      phase := (proceed definition claimLeaseMs clock runner.recovering store runner.phase).2.1 } := by
  intro called
  have stands := closes called
  have entered : enter definition record = .settled (.ok record) := by
    rw [enter, if_pos finished]
  simp only at called
  cases phase : runner.phase with
  | idle => trivial
  | creating named =>
    rw [phase] at stands
    simp only at stands
    simp [proceed, SagaStore.createIfNotExists, stands, found, entered]
  | loading sagaId =>
    rw [phase] at stands
    simp only at stands
    simp [proceed, SagaStore.get, stands, found, entered]
  | settled result =>
    rw [phase] at stands
    simp only at stands
    subst stands
    simp [proceed, called]
  | _ =>
    rw [phase] at stands
    exact stands.elim

theorem settle_closes {runner : Runner Context} {outcome : Except String Context} {event : SagaEvent}
    {phase' : Phase Context} (settled : settle clock outcome runner.phase = some (event, phase'))
    (closes : runner.Closes record) : Runner.Closes record { runner with phase := phase' } := by
  intro called
  have stands := closes called
  cases phase : runner.phase with
  | working =>
    rw [phase] at stands
    exact stands.elim
  | _ =>
    rw [phase] at settled
    cases settled

theorem step_closes (claimLeaseMs : Nat → Nat) (found : system.store record.sagaId = some record)
    (finished : record.status.terminal = true) (input : Input Context) (underway : input.starts = false)
    (closes : (system.runners id).Closes record) :
    ((step definition claimLeaseMs system input).2.runners id).Closes record := by
  by_cases own : input.runner = some id
  · cases input with
    | tick => cases own
    | start => cases underway
    | fire other timer =>
      cases own
      cases held : system.timers[timer]? with
      | none => simpa only [step, held] using closes
      | some retry =>
        simp only [step, held]
        split
        · simp [System.withRunner, begin, Runner.Closes]
        · exact closes
    | proceed other =>
      cases own
      simp only [step]
      split
      · exact closes
      · simpa [System.withRunner] using proceed_closes (claimLeaseMs id) found finished closes
    | settle other outcome =>
      cases own
      simp only [step]
      split
      · exact closes
      · split
        · exact closes
        · next settled => simpa [System.withRunner] using settle_closes settled closes
    | crash other =>
      cases own
      simp only [step, System.withRunner, Function.update_self]
      exact closes
  · rw [step_frame definition claimLeaseMs system own]
    exact closes

end Finished

end Delego.Saga
