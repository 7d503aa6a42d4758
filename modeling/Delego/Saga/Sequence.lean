import Delego.Saga.Lease
import Delego.Saga.Progress

set_option autoImplicit false

namespace Delego.Saga

open Shared

variable {Context : Type} {definition : SagaDefinition} {before after : System Context}
  {record current draft : SagaRecord Context} {phase : Phase Context} {stepName sagaId : String}
  {rest : List String} {mode : Mode} {next : Next} {event : Option SagaEvent} {id clock : Nat}
  {trace : List SagaEvent} {work : SagaWork}

def Phase.unsaved : Phase Context → Option (SagaRecord Context)
  | .saving _ draft next => if next.afterWork then some draft else none
  | _ => none

theorem unsaved_claim {store : SagaStore Context} (sound : Sound definition clock store phase)
    (unsaved : phase.unsaved = some draft) :
    ∃ current, phase.claim = some current ∧ draft.sagaId = current.sagaId := by
  cases phase with
  | saving current other next =>
    by_cases afterWork : next.afterWork = true
    · simp only [Phase.unsaved, afterWork, if_true, Option.some.injEq] at unsaved
      exact ⟨current, by simp [Phase.claim, afterWork], unsaved ▸ sound.2.sagaId⟩
    · simp [Phase.unsaved, afterWork] at unsaved
  | idle | creating | loading | looping | claiming | working | settled | rereading | rescheduling
  | recovered => cases unsaved

/-- The trace of a saga is what its stored record says, or the draft that is still to be saved. -/
structure Told (definition : SagaDefinition) (sagaId : String) (trace : List SagaEvent)
    (system : System Context) : Prop where
  blank : system.store sagaId = none → trace = []
  saved : ∀ record, system.store sagaId = some record →
    (∀ id draft, (system.runners id).phase.unsaved = some draft → draft.sagaId ≠ sagaId) →
      Progress definition trace record
  unsaved : ∀ id draft, (system.runners id).phase.unsaved = some draft → draft.sagaId = sagaId →
    Progress definition trace draft

theorem Told.silent (told : Told definition sagaId trace before)
    (store : after.store sagaId = before.store sagaId)
    (same : ∀ id draft, draft.sagaId = sagaId →
      ((after.runners id).phase.unsaved = some draft ↔
        (before.runners id).phase.unsaved = some draft)) : Told definition sagaId trace after where
  blank absent := told.blank (store ▸ absent)
  saved record found nobody := by
    refine told.saved record (store ▸ found) ?_
    intro id draft unsaved named
    exact nobody id draft ((same id draft named).mpr unsaved) named
  unsaved id draft unsaved named := told.unsaved id draft ((same id draft named).mp unsaved) named

theorem unsaved_none (claim : phase.claim = none) : phase.unsaved = none := by
  cases phase with
  | saving current draft next =>
    cases kind : next.afterWork with
    | true => simp [Phase.claim, kind] at claim
    | false => simp [Phase.unsaved, kind]
  | idle | creating | loading | looping | claiming | working | settled | rereading | rescheduling
  | recovered => rfl

theorem stored_unsaved (record : SagaRecord Context) (next : Next) :
    (stored record next).unsaved = none := by
  cases next <;> rfl

theorem Told.others (told : Told definition sagaId trace before)
    (others : ∀ other, other ≠ id → after.runners other = before.runners other)
    (store : after.store sagaId = before.store sagaId)
    (was : ∀ draft, (before.runners id).phase.unsaved = some draft → draft.sagaId ≠ sagaId)
    (now : ∀ draft, (after.runners id).phase.unsaved = some draft → draft.sagaId ≠ sagaId) :
    Told definition sagaId trace after := by
  refine told.silent store ?_
  intro other draft named
  by_cases same : other = id
  · subst same
    constructor
    · intro unsaved
      exact absurd named (now draft unsaved)
    · intro unsaved
      exact absurd named (was draft unsaved)
  · rw [others other same]

theorem Told.created (told : Told definition sagaId trace before) (formed : Formed definition before)
    (held : Held sagaId before)
    (others : ∀ other, other ≠ id → after.runners other = before.runners other)
    (absent : before.store record.sagaId = none) (running : record.status = .running)
    (nothing : record.completedSteps = [])
    (store : after.store = Function.update before.store record.sagaId (some record))
    (was : (before.runners id).phase.unsaved = none)
    (now : (after.runners id).phase.unsaved = none) : Told definition sagaId trace after := by
  by_cases ours : record.sagaId = sagaId
  · subst ours
    have new : after.store record.sagaId = some record := by
      rw [store, Function.update_self]
    constructor
    case blank =>
      intro none
      cases new.symm.trans none
    case saved =>
      intro other found _
      cases new.symm.trans found
      rw [told.blank absent]
      exact .unstarted running nothing
    case unsaved =>
      intro other draft unsaved named
      by_cases same : other = id
      · cases (same ▸ now).symm.trans unsaved
      · rw [others other same] at unsaved
        obtain ⟨current, claim, of⟩ := unsaved_claim (formed.sound other) unsaved
        cases absent.symm.trans (held.current other current claim (of.symm.trans named))
  · refine told.others others ?_ ?_ ?_
    · rw [store, Function.update_of_ne (Ne.symm ours)]
    · simp [was]
    · simp [now]

theorem Told.stored (told : Told definition sagaId trace before) (formed : Formed definition before)
    (held : Held sagaId before) (timely : Timely sagaId before)
    (others : ∀ other, other ≠ id → after.runners other = before.runners other)
    (saving : (before.runners id).phase = .saving current draft next)
    (found : before.store current.sagaId = some current)
    (write : Write definition before.clock current next draft)
    (store : after.store = Function.update before.store current.sagaId (some draft.bumped))
    (phase : (after.runners id).phase = stored draft.bumped next) :
    Told definition sagaId trace after := by
  by_cases ours : current.sagaId = sagaId
  · subst ours
    have only (other : Nat) (unsaved : SagaRecord Context)
        (waits : (before.runners other).phase.unsaved = some unsaved)
        (named : unsaved.sagaId = current.sagaId) : id = other := by
      obtain ⟨claimed, claim, of⟩ := unsaved_claim (formed.sound other) waits
      exact sole_saver formed held timely saving found claim (of.symm.trans named)
    have progress : Progress definition trace draft := by
      cases kind : next.afterWork with
      | true =>
        refine told.unsaved id draft ?_ write.sagaId
        simp [saving, Phase.unsaved, kind]
      | false =>
        refine Progress.written (told.saved current found ?_) write kind
        intro other unsaved waits named
        obtain rfl := only other unsaved waits named
        simp [saving, Phase.unsaved, kind] at waits
    have new : after.store current.sagaId = some draft.bumped := by
      rw [store, Function.update_self]
    constructor
    case blank =>
      intro none
      cases new.symm.trans none
    case saved =>
      intro other present _
      cases new.symm.trans present
      exact progress.congr rfl rfl
    case unsaved =>
      intro other unsaved waits named
      by_cases same : other = id
      · rw [same, phase, stored_unsaved] at waits
        cases waits
      · rw [others other same] at waits
        exact absurd (only other unsaved waits named).symm same
  · refine told.others others ?_ ?_ ?_
    · rw [store, Function.update_of_ne (Ne.symm ours)]
    · intro unsaved waits named
      obtain ⟨claimed, claim, of⟩ := unsaved_claim (formed.sound id) waits
      rw [saving] at claim
      obtain rfl := saving_claim claim
      exact ours (of.symm.trans named)
    · simp [phase, stored_unsaved]

theorem Told.settled (told : Told definition sagaId trace before) (formed : Formed definition before)
    (held : Held sagaId before)
    (others : ∀ other, other ≠ id → after.runners other = before.runners other)
    (working : (before.runners id).phase = .working mode current stepName rest)
    (ahead : Ahead definition current (stepName :: rest) mode)
    (settles : Settles current stepName rest mode work next draft)
    (sameId : draft.sagaId = current.sagaId) (store : after.store = before.store)
    (phase : (after.runners id).phase = .saving current draft next) :
    Told definition sagaId
      (([⟨current.sagaId, stepName, work⟩].filter fun event => event.sagaId = sagaId) ++ trace)
      after := by
  have claim : (before.runners id).phase.claim = some current := by
    rw [working]
    rfl
  have unsaved : (after.runners id).phase.unsaved = some draft := by
    simp [phase, Phase.unsaved, settles.afterWork]
  by_cases ours : current.sagaId = sagaId
  · subst ours
    have found := held.current id current claim rfl
    have only (other : Nat) (waiting : SagaRecord Context)
        (waits : (before.runners other).phase.unsaved = some waiting)
        (named : waiting.sagaId = current.sagaId) : other = id := by
      obtain ⟨claimed, claim', of⟩ := unsaved_claim (formed.sound other) waits
      exact held.alone other id claimed current claim' (of.symm.trans named) claim rfl
    have progress : Progress definition trace current := by
      refine told.saved current found ?_
      intro other waiting waits named
      obtain rfl := only other waiting waits named
      rw [working] at waits
      cases waits
    simp only [decide_true, List.filter_cons_of_pos, List.filter_nil, List.singleton_append]
    constructor
    case blank =>
      intro none
      rw [store] at none
      cases found.symm.trans none
    case saved =>
      intro other _ nobody
      exact absurd sameId (nobody id draft unsaved)
    case unsaved =>
      intro other waiting waits named
      by_cases same : other = id
      · subst same
        cases unsaved.symm.trans waits
        exact progress.settled settles ahead
      · rw [others other same] at waits
        exact absurd (only other waiting waits named) same
  · have elsewhere : ([⟨current.sagaId, stepName, work⟩].filter fun event : SagaEvent =>
        event.sagaId = sagaId) = [] := by
      simp [ours]
    rw [elsewhere, List.nil_append]
    refine told.others others (congrFun store sagaId) ?_ ?_
    · rw [working]
      intro waiting waits
      cases waits
    · intro waiting waits named
      cases unsaved.symm.trans waits
      exact ours (sameId.symm.trans named)

theorem SystemStep.told (turn : SystemStep definition before event after)
    (formed : Formed definition before) (held : Held sagaId before) (timely : Timely sagaId before)
    (told : Told definition sagaId trace before) :
    Told definition sagaId
      ((event.toList.filter fun event => event.sagaId = sagaId) ++ trace) after := by
  cases turn with
  | elsewhere store _ phases =>
    refine told.silent (congrFun store sagaId) ?_
    intro id draft _
    rw [phases id]
  | ran id _ others turn =>
    generalize started : (before.runners id).phase = phase at turn
    generalize ended : (after.runners id).phase = phase' at turn
    generalize written : after.store = store at turn
    cases turn with
    | quiet was now =>
      refine told.others others (congrFun written sagaId) ?_ ?_
      · simp [started, unsaved_none was]
      · simp [ended, unsaved_none now]
    | waiting =>
      refine told.silent (congrFun written sagaId) ?_
      intro other draft _
      by_cases same : other = id
      · rw [same, started, ended]
      · rw [others other same]
    | created record absent running nothing now =>
      refine told.created formed held others absent running nothing written ?_ ?_
      · rw [started]
        rfl
      · rw [ended, unsaved_none now]
    | lost stale =>
      refine told.others others (congrFun written sagaId) ?_ ?_
      · -- The holder of a claim does not lose the race: what it holds is the stored record.
        intro draft unsaved named
        obtain ⟨current, claim, of⟩ := unsaved_claim (formed.sound id) unsaved
        have found := held.current id current claim (of.symm.trans named)
        rw [started] at claim
        obtain rfl := saving_claim claim
        exact stale (of.symm.trans named ▸ found)
      · simp [ended, unsaved_none lost_claim]
    | saved found write =>
      exact told.stored formed held timely others started found write written ended
    | settled ahead claimed settles =>
      exact told.settled formed held others started ahead settles
        settles.sagaId written ended

theorem initial_held (sagaId : String) (clock : Nat) :
    Held sagaId (.initial clock : System Context) where
  current := by
    intro id record claim
    cases claim
  alone := by
    intro id other record record' claim
    cases claim

theorem initial_told (definition : SagaDefinition) (sagaId : String) (clock : Nat) :
    Told definition sagaId [] (.initial clock : System Context) where
  blank _ := rfl
  saved := by
    intro record found
    cases found
  unsaved := by
    intro id draft unsaved
    cases unsaved

theorem traceOf_cons (receipt : SagaReceipt Context) (past : List (SagaReceipt Context)) :
    traceOf sagaId (receipt :: past) =
      (receipt.output.toList.filter fun event => event.sagaId = sagaId) ++ traceOf sagaId past := by
  cases event : receipt.output with
  | none => simp [traceOf, event]
  | some event' =>
    rw [traceOf, List.filterMap_cons_some event, List.filter_cons]
    split
    · rename_i ours
      simp [ours, traceOf]
    · rename_i other
      simp [other, traceOf]

theorem history_told (definition : SagaDefinition) (claimLeaseMs : Nat → Nat) (clock : Nat)
    (inputs : List (Input Context))
    (timely : ∀ older, older <:+ inputs →
      Timely sagaId (final definition claimLeaseMs clock older)) :
    Held sagaId (final definition claimLeaseMs clock inputs) ∧
      Told definition sagaId (traceOf sagaId (history definition claimLeaseMs clock inputs))
        (final definition claimLeaseMs clock inputs) := by
  induction inputs with
  | nil => exact ⟨initial_held sagaId clock, initial_told definition sagaId clock⟩
  | cons input earlier ih =>
    obtain ⟨held, told⟩ := ih fun older suffix => timely older (suffix.trans (List.suffix_cons ..))
    have formed := final_formed definition claimLeaseMs clock earlier
    have now := timely earlier (List.suffix_cons ..)
    have turn := step_systemStep claimLeaseMs formed input
    have trace : traceOf sagaId (history definition claimLeaseMs clock (input :: earlier)) = _ :=
      traceOf_cons _ (history definition claimLeaseMs clock earlier)
    rw [trace]
    exact ⟨turn.held formed held now, turn.told formed held now told⟩

theorem Told.progress (told : Told definition sagaId trace after) :
    ∃ steps undone, successful trace = compensations undone ++ (acts (steps ++ undone)).reverse ∧
      (steps ++ undone) <+: definition.stepOrder ∧
      (undone ≠ [] → ∃ event ∈ trace, event.work = .rejected) := by
  have of_record {record : SagaRecord Context} (progress : Progress definition trace record) :
      ∃ steps undone, successful trace = compensations undone ++ (acts (steps ++ undone)).reverse ∧
        (steps ++ undone) <+: definition.stepOrder ∧
        (undone ≠ [] → ∃ event ∈ trace, event.work = .rejected) := by
    obtain ⟨undone, done, within, failing⟩ := progress.steps
    exact ⟨_, undone, done, within, fun some => progress.broken (failing some)⟩
  by_cases waits : ∃ id draft, (after.runners id).phase.unsaved = some draft ∧ draft.sagaId = sagaId
  · obtain ⟨id, draft, unsaved, named⟩ := waits
    exact of_record (told.unsaved id draft unsaved named)
  · cases found : after.store sagaId with
    | none =>
      rw [told.blank found]
      exact ⟨[], [], rfl, List.nil_prefix, by simp⟩
    | some record =>
      refine of_record (told.saved record found ?_)
      intro id draft unsaved named
      exact waits ⟨id, draft, unsaved, named⟩

/-- While every claim of the saga is finished with before its lease expires, the actions that
succeed are the first steps in order, each once, and then, only after a rejection, come the
compensations of those steps from the last one back, each once at most. -/
theorem saga_sequence (definition : SagaDefinition) (claimLeaseMs : Nat → Nat) (clock : Nat)
    (inputs : List (Input Context)) (sagaId : String)
    (timely : ∀ older, older <:+ inputs →
      Timely sagaId (final definition claimLeaseMs clock older)) :
    ∃ count undone,
      (successful (traceOf sagaId (history definition claimLeaseMs clock inputs))).reverse =
        acts (definition.stepOrder.take count) ++ compensations undone ∧
      undone <+: (definition.stepOrder.take count).reverse ∧
      (undone ≠ [] → ∃ event ∈ traceOf sagaId (history definition claimLeaseMs clock inputs),
        event.work = .rejected) := by
  obtain ⟨_, told⟩ := history_told definition claimLeaseMs clock inputs timely
  obtain ⟨steps, undone, done, within, rejected⟩ := told.progress
  have taken := List.prefix_iff_eq_take.mp within
  refine ⟨(steps ++ undone).length, undone.reverse, ?_, ?_, ?_⟩
  · rw [done, ← taken]
    simp [compensations]
  · rw [← taken, List.reverse_append]
    exact List.prefix_append ..
  · intro some
    exact rejected (by simpa using some)

example : (successful (traceOf "saga" (history sampleDefinition sampleLease 0 sampleInputs))).reverse =
    [(.acted, "reserve"), (.compensated, "reserve")] := by
  decide

theorem saga_sequence_sample :
    ∃ count undone,
      (successful (traceOf "saga" (history sampleDefinition sampleLease 0 sampleInputs))).reverse =
        acts (["reserve", "pay"].take count) ++ compensations undone ∧
      undone <+: (["reserve", "pay"].take count).reverse ∧
      (undone ≠ [] → ∃ event ∈ traceOf "saga" (history sampleDefinition sampleLease 0 sampleInputs),
        event.work = .rejected) :=
  saga_sequence sampleDefinition sampleLease 0 sampleInputs "saga"
    (timely_of_named sampleDefinition sampleLease 0 sampleInputs [0, 1] (by decide) (by decide))

end Delego.Saga
