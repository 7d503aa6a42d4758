set_option autoImplicit false

namespace Shared

/-- How a call fails: with an error of its own, or with a trap of its host. -/
inductive Fault (ε : Type) where
  | error (e : ε)
  | trap
  deriving DecidableEq

structure Frame (S Ev : Type) where
  state : S
  log : List Ev

abbrev Tx (S Ev ε : Type) := StateT (Frame S Ev) (Except (Fault ε))

namespace Tx

variable {S Ev ε α β : Type}

def read : Tx S Ev ε S := fun frame => .ok (frame.state, frame)

def write (state : S) : Tx S Ev ε Unit := fun frame => .ok ((), { frame with state })

def emit (event : Ev) : Tx S Ev ε Unit :=
  fun frame => .ok ((), { frame with log := frame.log ++ [event] })

def reject (e : ε) : Tx S Ev ε α := fun _ => .error (.error e)

def trap : Tx S Ev ε α := fun _ => .error .trap

def rejectIf (bad : Prop) [Decidable bad] (e : ε) : Tx S Ev ε Unit :=
  if bad then reject e else pure ()

def trapIf (bad : Prop) [Decidable bad] : Tx S Ev ε Unit :=
  if bad then trap else pure ()

def orReject (found : Option α) (e : ε) : Tx S Ev ε α :=
  match found with
  | some a => pure a
  | none => reject e

def orTrap (found : Option α) : Tx S Ev ε α :=
  match found with
  | some a => pure a
  | none => trap

def ofResult (result : Except ε α) : Tx S Ev ε α :=
  match result with
  | .ok a => pure a
  | .error e => reject e

-- A caller that looks at the error of a call that writes nothing, instead of passing it on.
def attempt (call : Tx S Ev ε α) : Tx S Ev ε (Except ε α) := fun frame =>
  match call frame with
  | .ok (a, after) => .ok (.ok a, after)
  | .error (.error e) => .ok (.error e, frame)
  | .error .trap => .error .trap

def performIf (wanted : Prop) [Decidable wanted] (action : Tx S Ev ε Unit) : Tx S Ev ε Unit :=
  if wanted then action else pure ()

def Yields (call : Tx S Ev ε α) (before : Frame S Ev) (a : α) (after : Frame S Ev) : Prop :=
  call before = .ok (a, after)

def Fails (call : Tx S Ev ε α) (before : Frame S Ev) (fault : Fault ε) : Prop :=
  call before = .error fault

variable {before after : Frame S Ev} {a : α} {b : β} {fault : Fault ε}

@[simp] theorem yields_pure {value : α} :
    (pure value : Tx S Ev ε α).Yields before a after ↔ a = value ∧ after = before := by
  change (Except.ok (value, before) : Except (Fault ε) _) = .ok (a, after) ↔ _
  simp [eq_comm]

-- Every specification below is read off through this rule: a sequence succeeds exactly when
-- its first half does and the rest succeeds from where that half ended.
@[simp] theorem yields_bind {call : Tx S Ev ε α} {rest : α → Tx S Ev ε β} :
    (call >>= rest).Yields before b after ↔
      ∃ a middle, call.Yields before a middle ∧ (rest a).Yields middle b after := by
  simp only [Yields, bind, StateT.bind]
  cases call before with
  | error fault => simp [Except.bind]
  | ok result =>
    rcases result with ⟨value, middle⟩
    constructor
    · intro next
      exact ⟨value, middle, rfl, next⟩
    · intro done
      obtain ⟨_, _, first, next⟩ := done
      cases first
      exact next

@[simp] theorem yields_map {call : Tx S Ev ε α} {f : α → β} :
    (f <$> call).Yields before b after ↔ ∃ a, call.Yields before a after ∧ b = f a := by
  rw [← bind_pure_comp]
  simp only [yields_bind, yields_pure]
  constructor
  · intro done
    obtain ⟨a, middle, done, rfl, rfl⟩ := done
    exact ⟨a, done, rfl⟩
  · intro done
    obtain ⟨a, done, rfl⟩ := done
    exact ⟨a, after, done, rfl, rfl⟩

@[simp] theorem yields_read {state : S} :
    (read : Tx S Ev ε S).Yields before state after ↔ state = before.state ∧ after = before := by
  simp [Yields, read, eq_comm]

@[simp] theorem yields_write {state : S} {u : Unit} :
    (write state : Tx S Ev ε Unit).Yields before u after ↔ after = { before with state } := by
  simp [Yields, write, eq_comm]

@[simp] theorem yields_emit {event : Ev} {u : Unit} :
    (emit event : Tx S Ev ε Unit).Yields before u after ↔
      after = { before with log := before.log ++ [event] } := by
  simp [Yields, emit, eq_comm]

@[simp] theorem not_yields_reject {e : ε} : ¬ (reject e : Tx S Ev ε α).Yields before a after := by
  simp [Yields, reject]

@[simp] theorem not_yields_trap : ¬ (trap : Tx S Ev ε α).Yields before a after := by
  simp [Yields, trap]

@[simp] theorem yields_rejectIf {bad : Prop} [Decidable bad] {e : ε} {u : Unit} :
    (rejectIf bad e : Tx S Ev ε Unit).Yields before u after ↔ ¬ bad ∧ after = before := by
  unfold rejectIf
  split <;> simp_all

@[simp] theorem yields_trapIf {bad : Prop} [Decidable bad] {u : Unit} :
    (trapIf bad : Tx S Ev ε Unit).Yields before u after ↔ ¬ bad ∧ after = before := by
  unfold trapIf
  split <;> simp_all

@[simp] theorem yields_orReject {found : Option α} {e : ε} :
    (orReject found e : Tx S Ev ε α).Yields before a after ↔ found = some a ∧ after = before := by
  cases found <;> simp [orReject, eq_comm]

@[simp] theorem yields_orTrap {found : Option α} :
    (orTrap found : Tx S Ev ε α).Yields before a after ↔ found = some a ∧ after = before := by
  cases found <;> simp [orTrap, eq_comm]

@[simp] theorem yields_ofResult {result : Except ε α} :
    (ofResult result : Tx S Ev ε α).Yields before a after ↔ result = .ok a ∧ after = before := by
  cases result <;> simp [ofResult, eq_comm]

theorem yields_attempt_ok {call : Tx S Ev ε α} (yields : call.Yields before a after) :
    (attempt call).Yields before (.ok a) after := by
  unfold Yields at yields
  simp only [Yields, attempt, yields]

theorem yields_attempt_error {call : Tx S Ev ε α} {e : ε} (failed : call.Fails before (.error e)) :
    (attempt call).Yields before (.error e) before := by
  unfold Fails at failed
  simp only [Yields, attempt, failed]

theorem yields_or_fails (call : Tx S Ev ε α) (before : Frame S Ev) :
    (∃ a after, call.Yields before a after) ∨ ∃ fault, call.Fails before fault := by
  unfold Yields Fails
  cases call before with
  | ok result => exact .inl ⟨result.1, result.2, rfl⟩
  | error fault => exact .inr ⟨fault, rfl⟩

@[simp] theorem yields_performIf {wanted : Prop} [Decidable wanted] {action : Tx S Ev ε Unit}
    {u : Unit} : (performIf wanted action).Yields before u after ↔
      (wanted ∧ action.Yields before u after) ∨ (¬ wanted ∧ after = before) := by
  unfold performIf
  split <;> simp_all

@[simp] theorem yields_ite {choice : Prop} [Decidable choice] {yes no : Tx S Ev ε α} :
    (if choice then yes else no).Yields before a after ↔
      (choice ∧ yes.Yields before a after) ∨ (¬ choice ∧ no.Yields before a after) := by
  split <;> simp_all

-- How a sequence fails: in its first half, or in the rest from where that half ended.
@[simp] theorem fails_bind {call : Tx S Ev ε α} {rest : α → Tx S Ev ε β} :
    (call >>= rest).Fails before fault ↔ call.Fails before fault ∨
      ∃ a middle, call.Yields before a middle ∧ (rest a).Fails middle fault := by
  simp only [Fails, Yields, bind, StateT.bind]
  cases call before with
  | error failure => simp [Except.bind]
  | ok result =>
    rcases result with ⟨value, middle⟩
    constructor
    · intro failed
      exact .inr ⟨value, middle, rfl, failed⟩
    · intro failed
      rcases failed with first | ⟨_, _, first, failed⟩
      · cases first
      · cases first
        exact failed

@[simp] theorem fails_map {call : Tx S Ev ε α} {f : α → β} :
    (f <$> call).Fails before fault ↔ call.Fails before fault := by
  rw [← bind_pure_comp, fails_bind]
  constructor
  · intro failed
    rcases failed with first | ⟨_, _, _, last⟩
    · exact first
    · cases last
  · exact Or.inl

@[simp] theorem not_fails_pure {value : α} : ¬ (pure value : Tx S Ev ε α).Fails before fault := by
  intro failed
  cases failed

@[simp] theorem not_fails_read : ¬ (read : Tx S Ev ε S).Fails before fault := by
  simp [Fails, read]

@[simp] theorem not_fails_write {state : S} : ¬ (write state : Tx S Ev ε Unit).Fails before fault := by
  simp [Fails, write]

@[simp] theorem not_fails_emit {event : Ev} : ¬ (emit event : Tx S Ev ε Unit).Fails before fault := by
  simp [Fails, emit]

@[simp] theorem fails_reject {e : ε} :
    (reject e : Tx S Ev ε α).Fails before fault ↔ fault = .error e := by
  simp [Fails, reject, eq_comm]

@[simp] theorem fails_trap : (trap : Tx S Ev ε α).Fails before fault ↔ fault = .trap := by
  simp [Fails, trap, eq_comm]

@[simp] theorem fails_rejectIf {bad : Prop} [Decidable bad] {e : ε} :
    (rejectIf bad e : Tx S Ev ε Unit).Fails before fault ↔ bad ∧ fault = .error e := by
  unfold rejectIf
  split <;> simp_all

@[simp] theorem fails_trapIf {bad : Prop} [Decidable bad] :
    (trapIf bad : Tx S Ev ε Unit).Fails before fault ↔ bad ∧ fault = .trap := by
  unfold trapIf
  split <;> simp_all

@[simp] theorem fails_orReject {found : Option α} {e : ε} :
    (orReject found e : Tx S Ev ε α).Fails before fault ↔ found = none ∧ fault = .error e := by
  cases found <;> simp [orReject]

@[simp] theorem fails_orTrap {found : Option α} :
    (orTrap found : Tx S Ev ε α).Fails before fault ↔ found = none ∧ fault = .trap := by
  cases found <;> simp [orTrap]

@[simp] theorem fails_ofResult {result : Except ε α} :
    (ofResult result : Tx S Ev ε α).Fails before fault ↔
      ∃ e, result = .error e ∧ fault = .error e := by
  cases result <;> simp [ofResult]

abbrev Outcome (Ev ε α : Type) := Except (Fault ε) (α × List Ev)

/-- One whole call: it starts with an empty log, and a failed call leaves no trace in the state. -/
def invoke (call : Tx S Ev ε α) (state : S) : Outcome Ev ε α × S :=
  match call { state, log := [] } with
  | .ok (a, frame) => (.ok (a, frame.log), frame.state)
  | .error fault => (.error fault, state)

theorem invoke_ok {call : Tx S Ev ε α} {state : S} {log : List Ev} :
    (invoke call state).1 = .ok (a, log) ↔
      call.Yields { state, log := [] } a { state := (invoke call state).2, log } := by
  unfold invoke Yields
  cases call { state, log := [] } with
  | error fault => simp
  | ok result =>
    rcases result with ⟨value, frame⟩
    cases frame
    simp

theorem invoke_eq_ok {call : Tx S Ev ε α} {state state' : S} {log : List Ev} :
    invoke call state = (.ok (a, log), state') ↔
      call.Yields { state, log := [] } a { state := state', log } := by
  unfold invoke Yields
  cases call { state, log := [] } with
  | error failure => simp
  | ok result =>
    rcases result with ⟨value, frame⟩
    cases frame
    simp [and_comm, and_left_comm]

theorem invoke_error {call : Tx S Ev ε α} {state : S} {fault : Fault ε}
    (failed : (invoke call state).1 = .error fault) : (invoke call state).2 = state := by
  revert failed
  unfold invoke
  cases call { state, log := [] } with
  | error fault => simp
  | ok result => simp

theorem invoke_fails {call : Tx S Ev ε α} {state : S} :
    (invoke call state).1 = .error fault ↔ call.Fails { state, log := [] } fault := by
  unfold invoke Fails
  cases call { state, log := [] } with
  | error failure => simp
  | ok result => simp

theorem invoke_state {call : Tx S Ev ε α} {state : S}
    (yields : call.Yields { state, log := [] } a after) : (invoke call state).2 = after.state := by
  unfold Yields at yields
  simp only [invoke, yields]

end Tx

end Shared
