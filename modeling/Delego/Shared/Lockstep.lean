import Delego.Shared.Tx

set_option autoImplicit false

namespace Shared.Tx

variable {S S' Ev ε α α' β β' : Type} {Alike : S → S' → Prop} {Same : α → α' → Prop} {Next : β → β' → Prop}

/-- Two calls end alike: both with the same fault, or both with values and states that belong together and the
same events. -/
inductive Matched (Alike : S → S' → Prop) (Same : α → α' → Prop) :
    Except (Fault ε) (α × Frame S Ev) → Except (Fault ε) (α' × Frame S' Ev) → Prop
  | done {a : α} {a' : α'} {state : S} {state' : S'} (log : List Ev) (same : Same a a')
      (alike : Alike state state') : Matched Alike Same (.ok (a, ⟨state, log⟩)) (.ok (a', ⟨state', log⟩))
  | failed (fault : Fault ε) : Matched Alike Same (.error fault) (.error fault)

-- Two calls that end alike whenever they are made in states that are alike.
def Lockstep (Alike : S → S' → Prop) (Same : α → α' → Prop) (call : Tx S Ev ε α) (call' : Tx S' Ev ε α') :
    Prop :=
  ∀ state state' log, Alike state state' → Matched Alike Same (call ⟨state, log⟩) (call' ⟨state', log⟩)

theorem lockstep_pure {a : α} {a' : α'} (same : Same a a') :
    Lockstep Alike Same (pure a : Tx S Ev ε α) (pure a') :=
  fun _ _ log alike => .done log same alike

-- Every lockstep proof follows the sequences of a call through this rule.
theorem lockstep_bind {call : Tx S Ev ε α} {call' : Tx S' Ev ε α'} {rest : α → Tx S Ev ε β}
    {rest' : α' → Tx S' Ev ε β'} (first : Lockstep Alike Same call call')
    (next : ∀ a a', Same a a' → Lockstep Alike Next (rest a) (rest' a')) :
    Lockstep Alike Next (call >>= rest) (call' >>= rest') := by
  intro state state' log alike
  have ended := first state state' log alike
  simp only [bind, StateT.bind]
  generalize call ⟨state, log⟩ = result at ended ⊢
  generalize call' ⟨state', log⟩ = result' at ended ⊢
  cases ended with
  | done log same alike => exact next _ _ same _ _ log alike
  | failed fault => exact .failed fault

theorem lockstep_same {call : Tx S Ev ε α} {call' : Tx S' Ev ε α} {rest : α → Tx S Ev ε β}
    {rest' : α → Tx S' Ev ε β'} (first : Lockstep Alike Eq call call')
    (next : ∀ a, Lockstep Alike Next (rest a) (rest' a)) :
    Lockstep Alike Next (call >>= rest) (call' >>= rest') :=
  lockstep_bind first fun a _ same => same ▸ next a

theorem lockstep_map {call : Tx S Ev ε α} {call' : Tx S' Ev ε α'} {f : α → β} {f' : α' → β'}
    (first : Lockstep Alike Same call call') (next : ∀ a a', Same a a' → Next (f a) (f' a')) :
    Lockstep Alike Next (f <$> call) (f' <$> call') := by
  rw [← bind_pure_comp, ← bind_pure_comp]
  exact lockstep_bind first fun a a' same => lockstep_pure (next a a' same)

theorem lockstep_read : Lockstep Alike Alike (read : Tx S Ev ε S) read :=
  fun _ _ log alike => .done log alike alike

theorem lockstep_write {state : S} {state' : S'} (alike : Alike state state') :
    Lockstep Alike Eq (write state : Tx S Ev ε Unit) (write state') :=
  fun _ _ log _ => .done log rfl alike

theorem lockstep_emit (event : Ev) : Lockstep Alike Eq (emit event : Tx S Ev ε Unit) (emit event) :=
  fun _ _ log alike => .done (log ++ [event]) rfl alike

theorem lockstep_reject (e : ε) : Lockstep Alike Same (reject e : Tx S Ev ε α) (reject e) :=
  fun _ _ _ _ => .failed (.error e)

theorem lockstep_trap : Lockstep Alike Same (trap : Tx S Ev ε α) trap :=
  fun _ _ _ _ => .failed .trap

theorem lockstep_rejectIf {bad bad' : Prop} [Decidable bad] [Decidable bad'] (same : bad ↔ bad') (e : ε) :
    Lockstep Alike Eq (rejectIf bad e : Tx S Ev ε Unit) (rejectIf bad' e) := by
  unfold rejectIf
  by_cases wrong : bad
  · rw [if_pos wrong, if_pos (same.mp wrong)]
    exact lockstep_reject e
  · rw [if_neg wrong, if_neg (mt same.mpr wrong)]
    exact lockstep_pure rfl

theorem lockstep_trapIf {bad bad' : Prop} [Decidable bad] [Decidable bad'] (same : bad ↔ bad') :
    Lockstep Alike Eq (trapIf bad : Tx S Ev ε Unit) (trapIf bad') := by
  unfold trapIf
  by_cases wrong : bad
  · rw [if_pos wrong, if_pos (same.mp wrong)]
    exact lockstep_trap
  · rw [if_neg wrong, if_neg (mt same.mpr wrong)]
    exact lockstep_pure rfl

theorem lockstep_orReject (found : Option α) (e : ε) :
    Lockstep Alike Eq (orReject found e : Tx S Ev ε α) (orReject found e) := by
  cases found with
  | none => exact lockstep_reject e
  | some a => exact lockstep_pure rfl

theorem lockstep_orTrap (found : Option α) :
    Lockstep Alike Eq (orTrap found : Tx S Ev ε α) (orTrap found) := by
  cases found with
  | none => exact lockstep_trap
  | some a => exact lockstep_pure rfl

theorem lockstep_ofResult (result : Except ε α) :
    Lockstep Alike Eq (ofResult result : Tx S Ev ε α) (ofResult result) := by
  cases result with
  | error e => exact lockstep_reject e
  | ok a => exact lockstep_pure rfl

theorem lockstep_ite {choice : Prop} [Decidable choice] {yes no : Tx S Ev ε α} {yes' no' : Tx S' Ev ε α'}
    (held : Lockstep Alike Same yes yes') (failed : Lockstep Alike Same no no') :
    Lockstep Alike Same (if choice then yes else no) (if choice then yes' else no') := by
  split
  · exact held
  · exact failed

theorem lockstep_attempt {call : Tx S Ev ε α} {call' : Tx S' Ev ε α} (first : Lockstep Alike Eq call call') :
    Lockstep Alike Eq (attempt call) (attempt call') := by
  intro state state' log alike
  have ended := first state state' log alike
  simp only [attempt]
  generalize call ⟨state, log⟩ = result at ended ⊢
  generalize call' ⟨state', log⟩ = result' at ended ⊢
  cases ended with
  | done log same alike => exact .done log (congrArg _ same) alike
  | failed fault =>
    cases fault with
    | error e => exact .done log rfl alike
    | trap => exact .failed .trap

theorem Lockstep.invoke {call : Tx S Ev ε α} {call' : Tx S' Ev ε α} (lockstep : Lockstep Alike Eq call call')
    {state : S} {state' : S'} (alike : Alike state state') :
    (Tx.invoke call state).1 = (Tx.invoke call' state').1 ∧
      Alike (Tx.invoke call state).2 (Tx.invoke call' state').2 := by
  have ended := lockstep state state' [] alike
  simp only [Tx.invoke]
  generalize call ⟨state, []⟩ = result at ended ⊢
  generalize call' ⟨state', []⟩ = result' at ended ⊢
  cases ended with
  | done log same after =>
    cases same
    exact ⟨rfl, after⟩
  | failed fault => exact ⟨rfl, alike⟩

end Shared.Tx
