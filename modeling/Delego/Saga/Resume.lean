import Delego.Saga.Outcome

set_option autoImplicit false

namespace Delego.Saga

open Shared

variable {Context : Type}

def Input.next (steps : String → SagaStep Context) (system : System Context) (id : Nat) :
    Input Context :=
  match (system.runners id).phase.result steps with
  | some outcome => .settle id outcome
  | none => .proceed id

/-- One runner at work, all others cut off, with the time that passes before each of its turns. -/
def alone (definition : SagaDefinition) (steps : String → SagaStep Context)
    (claimLeaseMs : Nat → Nat) (id : Nat) (system : System Context) : List Nat → System Context
  | [] => system
  | elapsedMs :: earlier =>
    let system := alone definition steps claimLeaseMs id system earlier
    let system := (step definition claimLeaseMs system (.tick elapsedMs)).2
    (step definition claimLeaseMs system (.next steps system id)).2

-- A call is over once it has settled, and a recovery once its retry has been seen to.
def Runner.over (runner : Runner Context) : Prop :=
  match runner.phase with
  | .settled _ => runner.recovering = false
  | .recovered => True
  | _ => False

section Phases

variable {definition : SagaDefinition} {steps : String → SagaStep Context}
  {clock clock' : Nat} {store store' : SagaStore Context} {record current draft : SagaRecord Context}
  {phase phase' : Phase Context} {mode : Mode} {stepName sagaId : String}
  {rest remaining : List String} {next : Next}

-- Turns that a loop may still take: five for each step, and the way back if an action rejects.
def Mode.turns (completed remaining : Nat) : Mode → Nat
  | .advancing => 5 * remaining + 5 * (completed + remaining) + 5
  | .compensating _ => 5 * remaining + 5

def Phase.turns (definition : SagaDefinition) : Phase Context → Nat
  | .creating _ | .loading _ => 10 * definition.stepOrder.length + 6
  | .looping mode current remaining => mode.turns current.completedSteps.length remaining.length
  | .claiming mode current _ rest => mode.turns current.completedSteps.length (rest.length + 1) - 1
  | .saving _ draft next =>
    match next with
    | .work mode _ rest => mode.turns draft.completedSteps.length (rest.length + 1) - 2
    | .again mode rest => mode.turns draft.completedSteps.length rest.length + 1
    | .compensate _ => 5 * draft.completedSteps.length + 6
    | .abort _ | .finish => 4
  | .working mode current _ rest => mode.turns current.completedSteps.length (rest.length + 1) - 3
  | .settled _ => 3
  | .rereading _ => 2
  | .rescheduling _ => 1
  | .idle | .recovered => 0

theorem enter_turns (ok : RecordOk definition record) :
    (enter definition record).turns definition < 10 * definition.stepOrder.length + 6 := by
  rcases enter_ahead ok with settled | ⟨mode, remaining, looping, ahead⟩
  · rw [settled]
    simp only [Phase.turns]
    omega
  · rw [looping]
    cases mode with
    | advancing =>
      have lengths := congrArg List.length ahead.2
      rw [List.length_append] at lengths
      simp only [Phase.turns, Mode.turns]
      omega
    | compensating error =>
      have bound := ahead.2.1.length_le
      have lengths := congrArg List.length ahead.2.2
      rw [List.length_reverse] at lengths
      simp only [Phase.turns, Mode.turns]
      omega

theorem loop_turns (sound : Sound definition clock store (.looping mode current remaining)) :
    (loop definition clock mode current remaining).turns definition <
      (Phase.looping mode current remaining).turns definition := by
  obtain ⟨_, ahead⟩ := sound
  cases remaining with
  | nil => cases mode <;> simp [loop, Phase.turns, Mode.turns]
  | cons stepName rest =>
    have known := ahead.known
    by_cases live : leased clock current stepName
    · simp only [loop, known, live, not_true, if_false, if_true]
      cases mode <;> simp only [Phase.turns, Mode.turns, List.length_cons] <;> omega
    · simp only [loop, known, live, not_true, if_false]
      cases mode <;> simp only [Phase.turns, Mode.turns, List.length_cons] <;> omega

theorem saved_turns : (stored draft.bumped next).turns definition <
    (Phase.saving current draft next).turns definition := by
  cases next with
  | work mode stepName rest =>
    cases mode <;> simp only [stored, Phase.turns, Mode.turns, SagaRecord.bumped] <;> omega
  | again mode rest => exact Nat.lt_succ_self _
  | compensate message =>
    simp only [stored, compensate, Phase.turns, Mode.turns, SagaRecord.bumped, List.length_reverse]
    omega
  | abort | finish => exact Nat.lt_succ_self _

theorem lost_turns : (lost current next).turns definition <
    (Phase.saving current draft next).turns definition := by
  cases next with
  | work mode stepName rest =>
    cases mode <;> simp only [lost, Phase.turns, Mode.turns] <;> omega
  | again mode rest =>
    cases mode <;> simp only [lost, Phase.turns, Mode.turns] <;> omega
  | compensate | abort | finish =>
    simp only [lost, Phase.turns]
    omega

theorem settle_turns {outcome : Except String Context} {event : SagaEvent}
    (settled : settle clock outcome phase = some (event, phase')) :
    phase'.turns definition < phase.turns definition := by
  cases phase with
  | working mode current stepName rest =>
    cases mode with
    | advancing =>
      cases outcome <;> cases settled
      · simp only [Phase.turns, Mode.turns, SagaRecord.rejected]
        omega
      · simp only [Phase.turns, Mode.turns, SagaRecord.acted, List.length_append, List.length_singleton]
        omega
    | compensating error =>
      cases outcome <;> cases settled
      · simp only [Phase.turns, Mode.turns]
        omega
      · simp only [Phase.turns, Mode.turns]
        omega
  | idle | creating | loading | looping | claiming | saving | settled | rereading | rescheduling
  | recovered => cases settled

theorem settle_result {outcome : Except String Context} (clock : Nat)
    (result : phase.result steps = some outcome) :
    ∃ event phase', settle clock outcome phase = some (event, phase') := by
  cases phase with
  | working mode current stepName rest =>
    cases mode <;> cases outcome <;> exact ⟨_, _, rfl⟩
  | idle | creating | loading | looping | claiming | saving | settled | rereading | rescheduling
  | recovered => cases result

def Unleased (clock : Nat) (record : SagaRecord Context) : Prop :=
  ∀ claimExpiresAt ∈ record.claimExpiresAt, claimExpiresAt ≤ clock

instance (clock : Nat) (record : SagaRecord Context) : Decidable (Unleased clock record) :=
  inferInstanceAs (Decidable (∀ claimExpiresAt ∈ record.claimExpiresAt, _))

def Undisturbed (definition : SagaDefinition) (steps : String → SagaStep Context) (clock : Nat)
    (store : SagaStore Context) (sagaId : String) : Phase Context → Prop
  | .idle => False
  | .creating record => record.sagaId = sagaId ∧ record.claimExpiresAt = none ∧
    ∀ held, store sagaId = some held → Unleased clock held
  | .loading named => named = sagaId ∧ ∃ held, store sagaId = some held ∧ Unleased clock held
  | .looping _ current _ => store sagaId = some current ∧ Unleased clock current
  | .claiming _ current _ _ | .working _ current _ _ | .saving current _ _ =>
    store sagaId = some current
  | .settled _ | .rereading _ | .rescheduling _ | .recovered =>
    ∃ held, store sagaId = some held ∧ destination definition steps held = held.position

theorem Unleased.later (unleased : Unleased clock record) (later : clock ≤ clock') :
    Unleased clock' record :=
  fun claimExpiresAt expiry => Nat.le_trans (unleased claimExpiresAt expiry) later

theorem Unleased.free (unleased : Unleased clock record) : ¬ leased clock record stepName := by
  intro live
  obtain ⟨_, claimExpiresAt, expiry, running⟩ := live
  exact Nat.not_lt.mpr (unleased claimExpiresAt expiry) running

theorem Undisturbed.later (undisturbed : Undisturbed definition steps clock store sagaId phase)
    (later : clock ≤ clock') : Undisturbed definition steps clock' store sagaId phase := by
  cases phase with
  | creating =>
    obtain ⟨same, none, unleased⟩ := undisturbed
    exact ⟨same, none, fun held found => (unleased held found).later later⟩
  | loading =>
    obtain ⟨same, held, found, unleased⟩ := undisturbed
    exact ⟨same, held, found, unleased.later later⟩
  | looping => exact ⟨undisturbed.1, undisturbed.2.later later⟩
  | idle | claiming | working | saving | settled | rereading | rescheduling | recovered =>
    exact undisturbed

theorem enter_undisturbed (ok : RecordOk definition record) (found : store sagaId = some record)
    (unleased : Unleased clock record) :
    Undisturbed definition steps clock store sagaId (enter definition record) := by
  cases finished : record.status.terminal with
  | true =>
    rw [enter, finished]
    refine ⟨record, found, ?_⟩
    cases status : record.status with
    | completed | failed => simp [destination, status]
    | running | compensating => simp [status, SagaStatus.terminal] at finished
  | false =>
    rcases enter_ahead ok with settled | ⟨_, _, looping, _⟩
    · simp only [enter, finished, Bool.false_eq_true, if_false, advance, compensate] at settled
      split at settled <;> cases settled
    · rw [looping]
      exact ⟨found, unleased⟩

theorem loop_undisturbed (sound : Sound definition clock store (.looping mode current remaining))
    (found : store sagaId = some current) (unleased : Unleased clock current) :
    Undisturbed definition steps clock store sagaId (loop definition clock mode current remaining) := by
  cases remaining with
  | nil => cases mode <;> exact found
  | cons stepName rest =>
    simp only [loop, sound.2.known, not_true, if_false, unleased.free]
    exact found

theorem stored_undisturbed (write : Write definition clock' current next draft)
    (fits : next.Fits definition steps draft) (found : store sagaId = some draft.bumped) :
    Undisturbed definition steps clock store sagaId (stored draft.bumped next) := by
  -- What is saved after a step's work holds no lease.
  have unleased (none : draft.claimExpiresAt = none) : Unleased clock draft.bumped := by
    simp [Unleased, SagaRecord.bumped, none]
  cases write with
  | claim => exact found
  | acted | rejected | compensated => exact ⟨found, unleased rfl⟩
  | released | completed | failed => exact ⟨_, found, fits⟩

theorem proceed_undisturbed (claimLeaseMs : Nat) (recovering : Bool) (formed : StoreOk definition store)
    (sound : Sound definition clock store phase) (guided : Guided definition steps phase)
    (undisturbed : Undisturbed definition steps clock store sagaId phase)
    (free : phase.result steps = none) :
    Undisturbed definition steps clock
        (proceed definition claimLeaseMs clock recovering store phase).1 sagaId
        (proceed definition claimLeaseMs clock recovering store phase).2.1 ∧
      (Runner.over ⟨recovering, false, (proceed definition claimLeaseMs clock recovering store phase).2.1⟩ ∨
        (proceed definition claimLeaseMs clock recovering store phase).2.1.turns definition <
          phase.turns definition) := by
  cases phase with
  | idle => exact undisturbed.elim
  | creating record =>
    obtain ⟨rfl, unclaimed, unleased⟩ := undisturbed
    cases found : store record.sagaId with
    | some held =>
      have ok := formed.ok _ held found
      simp only [proceed, SagaStore.createIfNotExists, found]
      exact ⟨enter_undisturbed ok found (unleased held found), .inr (enter_turns ok)⟩
    | none =>
      have ok : RecordOk definition { record with version := 0 } :=
        { ordered := sound.2 ▸ List.nil_prefix
          all := fun other => by cases sound.1.symm.trans other
          none := fun other => by cases sound.1.symm.trans other }
      have free : Unleased clock { record with version := 0 } := by
        simp [Unleased, unclaimed]
      simp only [proceed, SagaStore.createIfNotExists, found]
      exact ⟨enter_undisturbed ok (Function.update_self ..) free, .inr (enter_turns ok)⟩
  | loading named =>
    obtain ⟨rfl, held, found, unleased⟩ := undisturbed
    have ok := formed.ok _ held found
    simp only [proceed, SagaStore.get, found]
    exact ⟨enter_undisturbed ok found unleased, .inr (enter_turns ok)⟩
  | looping mode current remaining =>
    exact ⟨loop_undisturbed sound undisturbed.1 undisturbed.2, .inr (loop_turns sound)⟩
  | claiming mode current stepName rest =>
    refine ⟨undisturbed, .inr ?_⟩
    cases mode <;> simp only [proceed, Phase.turns, Mode.turns, SagaRecord.claimed] <;> omega
  | working mode current stepName rest => cases mode <;> cases free
  | saving current draft next =>
    obtain ⟨_, write⟩ := sound
    obtain rfl := formed.keyed _ _ undisturbed
    simp only [proceed, save_current write.sagaId write.version undisturbed]
    exact ⟨stored_undisturbed write guided.2 (Function.update_self ..), .inr saved_turns⟩
  | settled result =>
    cases recovering with
    | false => cases result <;> exact ⟨undisturbed, .inl rfl⟩
    | true =>
      cases result with
      | error message => exact ⟨undisturbed, .inl trivial⟩
      | ok record =>
        by_cases again : incomplete record ∧ record.claimExpiresAt = none
        · simp only [proceed, again]
          exact ⟨undisturbed, .inr (Nat.lt_succ_self _)⟩
        · simp only [proceed, again]
          exact ⟨undisturbed, .inl trivial⟩
  | rereading named =>
    cases held : store.get named with
    | some latest =>
      simp only [proceed, held]
      exact ⟨undisturbed, .inr (Nat.lt_succ_self _)⟩
    | none =>
      simp only [proceed, held]
      exact ⟨undisturbed, .inl trivial⟩
  | rescheduling latest => exact ⟨undisturbed, .inl trivial⟩
  | recovered => exact ⟨undisturbed, .inl trivial⟩

theorem settle_undisturbed {outcome : Except String Context} {event : SagaEvent}
    (undisturbed : Undisturbed definition steps clock store sagaId phase)
    (settled : settle clock outcome phase = some (event, phase')) :
    Undisturbed definition steps clock store sagaId phase' := by
  cases phase with
  | working mode current stepName rest =>
    cases mode <;> cases outcome <;> cases settled <;> exact undisturbed
  | idle | creating | loading | looping | claiming | saving | settled | rereading | rescheduling
  | recovered => cases settled

end Phases

section Runs

variable {definition : SagaDefinition} {steps : String → SagaStep Context}
  {system : System Context} {sagaId : String} {id : Nat} {record : SagaRecord Context}

structure Lone (definition : SagaDefinition) (steps : String → SagaStep Context) (sagaId : String)
    (id : Nat) (initialContext : Context) (system : System Context) : Prop where
  formed : Formed definition system
  guided : AllGuided definition steps system
  alive : (system.runners id).crashed = false
  undisturbed : Undisturbed definition steps system.clock system.store sagaId
    (system.runners id).phase
  bound : Bound definition steps sagaId (uninterrupted definition steps initialContext) system

variable {initialContext : Context}

theorem Lone.ticked (lone : Lone definition steps sagaId id initialContext system) (claimLeaseMs : Nat → Nat)
    (elapsedMs : Nat) :
    Lone definition steps sagaId id initialContext (step definition claimLeaseMs system (.tick elapsedMs)).2 where
  formed := (step_systemStep claimLeaseMs lone.formed _).formed lone.formed
  guided := lone.guided
  alive := lone.alive
  undisturbed := lone.undisturbed.later (Nat.le_add_right _ _)
  bound := ⟨lone.bound.stored, lone.bound.sends⟩

theorem Lone.turn (lone : Lone definition steps sagaId id initialContext system) (claimLeaseMs : Nat → Nat) :
    Lone definition steps sagaId id initialContext
        (step definition claimLeaseMs system (.next steps system id)).2 ∧
      (((step definition claimLeaseMs system (.next steps system id)).2.runners id).over ∨
        ((step definition claimLeaseMs system (.next steps system id)).2.runners id).phase.turns
          definition < (system.runners id).phase.turns definition) := by
  have answers : Answers steps system (.next steps system id) := by
    unfold Input.next
    split
    · rename_i outcome result
      intro other member
      exact Option.some.inj (result.symm.trans member)
    · trivial
  have repeats : Repeats sagaId initialContext (.next steps system id) := by
    unfold Input.next
    split <;> trivial
  have stepped := step_systemStep claimLeaseMs lone.formed (.next steps system id)
  have formed := stepped.formed lone.formed
  have guided := step_guided claimLeaseMs lone.formed lone.guided answers
  have bound := lone.bound.step claimLeaseMs lone.formed lone.guided repeats
  cases result : (system.runners id).phase.result steps with
  | none =>
    have free : Input.next steps system id = .proceed id := by
      rw [Input.next, result]
    obtain ⟨undisturbed, ends⟩ := proceed_undisturbed (claimLeaseMs id)
      (system.runners id).recovering lone.formed.storeOk (lone.formed.sound id) (lone.guided id)
      lone.undisturbed result
    rw [free] at formed guided bound ⊢
    simp only [step, lone.alive, Bool.false_eq_true, if_false] at formed guided bound ⊢
    refine ⟨⟨formed, guided, ?_, ?_, bound⟩, ?_⟩
    · simp [System.withRunner]
    · simpa [System.withRunner] using undisturbed
    · simpa [System.withRunner, Runner.over] using ends
  | some outcome =>
    have answered : Input.next steps system id = .settle id outcome := by
      rw [Input.next, result]
    obtain ⟨event, phase, settled⟩ := settle_result system.clock result
    have fewer : phase.turns definition < (system.runners id).phase.turns definition :=
      settle_turns settled
    have undisturbed := settle_undisturbed lone.undisturbed settled
    rw [answered] at formed guided bound ⊢
    simp only [step, lone.alive, Bool.false_eq_true, if_false, settled] at formed guided bound ⊢
    refine ⟨⟨formed, guided, ?_, ?_, bound⟩, .inr ?_⟩
    · simp [System.withRunner]
    · simpa [System.withRunner] using undisturbed
    · simpa [System.withRunner] using fewer

theorem over_stays (claimLeaseMs : Nat → Nat) (alive : (system.runners id).crashed = false)
    (ended : (system.runners id).over) :
    ((step definition claimLeaseMs system (.next steps system id)).2.runners id).over := by
  unfold Runner.over at ended
  have free : Input.next steps system id = .proceed id := by
    split at ended
    · rename_i phase
      simp [Input.next, phase, Phase.result]
    · rename_i phase
      simp [Input.next, phase, Phase.result]
    · exact ended.elim
  rw [free]
  simp only [step, alive, Bool.false_eq_true, if_false, System.withRunner, Function.update_self]
  split at ended
  · rename_i result phase
    cases result <;> simp [phase, proceed, ended, Runner.over]
  · rename_i phase
    simp [phase, proceed, Runner.over]
  · exact ended.elim

theorem Lone.over_or_fewer (lone : Lone definition steps sagaId id initialContext system)
    (claimLeaseMs : Nat → Nat) (elapsed : List Nat) :
    Lone definition steps sagaId id initialContext (alone definition steps claimLeaseMs id system elapsed) ∧
      (((alone definition steps claimLeaseMs id system elapsed).runners id).over ∨
        ((alone definition steps claimLeaseMs id system elapsed).runners id).phase.turns definition +
          elapsed.length ≤ (system.runners id).phase.turns definition) := by
  induction elapsed with
  | nil => exact ⟨lone, .inr (Nat.le_refl _)⟩
  | cons elapsedMs earlier ih =>
    obtain ⟨before, progress⟩ := ih
    have ticked := before.ticked claimLeaseMs elapsedMs
    obtain ⟨after, nearer⟩ := ticked.turn claimLeaseMs
    refine ⟨after, ?_⟩
    rcases progress with ended | fewer
    · exact .inl (over_stays claimLeaseMs ticked.alive ended)
    · rcases nearer with ended | less
      · exact .inl ended
      · refine .inr ?_
        have step : ((alone definition steps claimLeaseMs id system
            (elapsedMs :: earlier)).runners id).phase.turns definition <
          ((alone definition steps claimLeaseMs id system earlier).runners id).phase.turns definition :=
          less
        rw [List.length_cons]
        omega

theorem Lone.ends (lone : Lone definition steps sagaId id initialContext system)
    (claimLeaseMs : Nat → Nat) (elapsed : List Nat)
    (enough : (system.runners id).phase.turns definition < elapsed.length) :
    ((alone definition steps claimLeaseMs id system elapsed).runners id).over ∧
      ∃ record, (alone definition steps claimLeaseMs id system elapsed).store sagaId = some record ∧
        record.position = uninterrupted definition steps initialContext := by
  obtain ⟨after, progress⟩ := lone.over_or_fewer claimLeaseMs elapsed
  have ended : ((alone definition steps claimLeaseMs id system elapsed).runners id).over := by
    rcases progress with ended | fewer
    · exact ended
    · omega
  refine ⟨ended, ?_⟩
  have undisturbed := after.undisturbed
  unfold Runner.over at ended
  have arrived : ∃ held, (alone definition steps claimLeaseMs id system elapsed).store sagaId =
      some held ∧ destination definition steps held = held.position := by
    split at ended
    · rename_i phase
      rwa [phase] at undisturbed
    · rename_i phase
      rwa [phase] at undisturbed
    · exact ended.elim
  obtain ⟨held, found, same⟩ := arrived
  exact ⟨held, found, same.symm.trans (after.bound.stored held found)⟩

/-- A call that goes on with a saga; a new `run` also does before the record has been created. -/
def TakesUp (sagaId : String) (initialContext : Context) (store : SagaStore Context) :
    SagaCall Context → Prop
  | .run named _ context => named = sagaId ∧ context = initialContext
  | .resume named | .recoverOne named => named = sagaId ∧ ∃ record, store sagaId = some record

theorem TakesUp.undisturbed {call : SagaCall Context} {clock : Nat} {store : SagaStore Context}
    (takesUp : TakesUp sagaId initialContext store call)
    (expired : ∀ record, store sagaId = some record → Unleased clock record) :
    Undisturbed definition steps clock store sagaId (begin definition clock call).phase := by
  cases call with
  | run named orderId context => exact ⟨takesUp.1, rfl, expired⟩
  | resume named | recoverOne named =>
    obtain ⟨rfl, record, found⟩ := takesUp
    exact ⟨rfl, record, found, expired record found⟩

theorem TakesUp.repeats {call : SagaCall Context} {store : SagaStore Context}
    (takesUp : TakesUp sagaId initialContext store call) :
    Repeats sagaId initialContext (.start id call) := by
  cases call with
  | run => exact fun _ => takesUp.2
  | resume | recoverOne => trivial

theorem begin_turns (clock : Nat) (call : SagaCall Context) :
    (begin definition clock call).phase.turns definition = 10 * definition.stepOrder.length + 6 := by
  cases call <;> rfl

/-- A call that takes the saga up while nobody holds a lease on it carries it to its end. -/
theorem taken_up_ends (claimLeaseMs : Nat → Nat) (call : SagaCall Context)
    (formed : Formed definition system) (guided : AllGuided definition steps system)
    (bound : Bound definition steps sagaId (uninterrupted definition steps initialContext) system)
    (idle : (system.runners id).phase.isIdle = true)
    (takesUp : TakesUp sagaId initialContext system.store call)
    (expired : ∀ record ∈ system.store sagaId, Unleased system.clock record)
    (elapsed : List Nat) (enough : 10 * definition.stepOrder.length + 6 < elapsed.length) :
    ((alone definition steps claimLeaseMs id
        (step definition claimLeaseMs system (.start id call)).2 elapsed).runners id).over ∧
      ∃ record, (alone definition steps claimLeaseMs id
          (step definition claimLeaseMs system (.start id call)).2 elapsed).store sagaId =
        some record ∧ record.position = uninterrupted definition steps initialContext := by
  have started : (step definition claimLeaseMs system (.start id call)).2 =
      system.withRunner id (begin definition system.clock call) := by
    simp [step, idle]
  have lone : Lone definition steps sagaId id initialContext
      (step definition claimLeaseMs system (.start id call)).2 := by
    constructor
    case formed => exact (step_systemStep claimLeaseMs formed _).formed formed
    case guided => exact step_guided claimLeaseMs formed guided trivial
    case bound => exact bound.step claimLeaseMs formed guided takesUp.repeats
    case alive =>
      rw [started]
      cases call <;> simp [System.withRunner, begin]
    case undisturbed =>
      rw [started]
      simpa [System.withRunner] using takesUp.undisturbed expired
  refine lone.ends claimLeaseMs elapsed ?_
  rw [started]
  simpa [System.withRunner, begin_turns] using enough

theorem initial_guided (clock : Nat) :
    AllGuided definition steps (.initial clock : System Context) :=
  fun _ => trivial

theorem initial_bound (goal : Destination Context) (clock : Nat) :
    Bound definition steps sagaId goal (.initial clock : System Context) where
  stored := by
    intro record found
    cases found
  sends _ := trivial

end Runs

def begun (definition : SagaDefinition) (clock : Nat) (sagaId orderId : String)
    (initialContext : Context) : System Context :=
  (System.initial clock).withRunner 0 (begin definition clock (.run sagaId orderId initialContext))

/-- A saga that is cut off anywhere, by any steps of any runners, and taken up again once no lease
is left on it ends as the run ends that nothing interrupts. -/
theorem resume_agrees (definition : SagaDefinition) (steps : String → SagaStep Context)
    (claimLeaseMs : Nat → Nat) (clock : Nat) (sagaId orderId : String) (initialContext : Context)
    (inputs : List (Input Context)) (cut : System Context)
    (interrupted : cut = Run.final (step definition claimLeaseMs)
      (begun definition clock sagaId orderId initialContext) inputs)
    (answered : Answered definition steps claimLeaseMs
      (begun definition clock sagaId orderId initialContext) inputs)
    (repeats : ∀ input ∈ inputs, Repeats sagaId initialContext input)
    (resumer : Nat) (call : SagaCall Context)
    (idle : (cut.runners resumer).phase.isIdle = true)
    (takesUp : TakesUp sagaId initialContext cut.store call)
    (expired : ∀ record ∈ cut.store sagaId, Unleased cut.clock record)
    (elapsed elapsed' : List Nat) (enough : 10 * definition.stepOrder.length + 6 < elapsed.length)
    (enough' : 10 * definition.stepOrder.length + 6 < elapsed'.length)
    (resumed direct : System Context)
    (resumes : resumed = alone definition steps claimLeaseMs resumer
      (step definition claimLeaseMs cut (.start resumer call)).2 elapsed)
    (runs : direct = alone definition steps claimLeaseMs 0
      (begun definition clock sagaId orderId initialContext) elapsed') :
    (resumed.runners resumer).over ∧ (direct.runners 0).over ∧
      ∃ record record', resumed.store sagaId = some record ∧ direct.store sagaId = some record' ∧
        record.position = record'.position ∧
        record'.position = uninterrupted definition steps initialContext := by
  have formed : Formed definition (.initial clock : System Context) := initial_formed definition clock
  have guided : AllGuided definition steps (.initial clock : System Context) := initial_guided clock
  have bound : Bound definition steps sagaId (uninterrupted definition steps initialContext)
      (.initial clock) := initial_bound _ clock
  have ran : (direct.runners 0).over ∧ ∃ record', direct.store sagaId = some record' ∧
      record'.position = uninterrupted definition steps initialContext := by
    rw [runs]
    refine taken_up_ends claimLeaseMs (.run sagaId orderId initialContext) formed guided bound rfl
      ⟨rfl, rfl⟩ ?_ elapsed' enough'
    intro record found
    cases found
  have restarted : (resumed.runners resumer).over ∧ ∃ record, resumed.store sagaId = some record ∧
      record.position = uninterrupted definition steps initialContext := by
    have asked : Repeats sagaId initialContext (.start 0 (.run sagaId orderId initialContext)) :=
      fun _ => rfl
    have begunFormed : Formed definition (begun definition clock sagaId orderId initialContext) :=
      (step_systemStep claimLeaseMs formed (.start 0 (.run sagaId orderId initialContext))).formed
        formed
    have begunGuided : AllGuided definition steps
        (begun definition clock sagaId orderId initialContext) := guided.updated rfl trivial
    obtain ⟨formed, guided, bound⟩ := run_bound claimLeaseMs begunFormed begunGuided
      (bound.step claimLeaseMs formed guided asked) inputs answered repeats
    rw [resumes]
    rw [interrupted] at idle takesUp expired ⊢
    exact taken_up_ends claimLeaseMs call formed guided bound idle takesUp expired elapsed enough
  obtain ⟨ended, record, found, place⟩ := restarted
  obtain ⟨ended', record', found', place'⟩ := ran
  exact ⟨ended, ended', record, record', found, found', place.trans place'.symm, place'⟩

instance [DecidableEq Context] (steps : String → SagaStep Context) (system : System Context) :
    (input : Input Context) → Decidable (Answers steps system input)
  | .settle id outcome =>
    inferInstanceAs (Decidable (∀ result ∈ (system.runners id).phase.result steps, outcome = result))
  | .tick _ | .start .. | .fire .. | .proceed _ | .crash _ => isTrue trivial

instance [DecidableEq Context] (definition : SagaDefinition) (steps : String → SagaStep Context)
    (claimLeaseMs : Nat → Nat) (start : System Context) (inputs : List (Input Context)) :
    Decidable (Answered definition steps claimLeaseMs start inputs) :=
  inferInstanceAs (Decidable (∀ receipt ∈ _, Answers steps _ _))

-- The payment is declined, so the reservation is undone.
def sampleSteps (stepName : String) : SagaStep Nat where
  action reserved := if stepName = "pay" then .error "declined" else .ok (reserved + 1)
  compensation reserved _ := .ok (reserved - 1)

-- Runner 0 is cut off before it saves its first step, runner 1 with its second step claimed.
def sampleInterruptions : List (Input Nat) :=
  [ .proceed 0, .proceed 0, .proceed 0, .proceed 0, .settle 0 (.ok 1), .crash 0, .tick 30000,
    .start 1 (.resume "saga"), .proceed 1, .proceed 1, .proceed 1, .proceed 1, .settle 1 (.ok 1),
    .proceed 1, .proceed 1, .proceed 1, .proceed 1, .crash 1, .tick 30000 ].reverse

theorem resume_agrees_sample : ∃ resumed direct : System Nat,
    (resumed.runners 2).over ∧ (direct.runners 0).over ∧
      ∃ record record', resumed.store "saga" = some record ∧ direct.store "saga" = some record' ∧
        record.position = record'.position ∧
        record'.position = uninterrupted sampleDefinition sampleSteps 0 :=
  ⟨_, _, resume_agrees sampleDefinition sampleSteps sampleLease 0 "saga" "order" 0
    sampleInterruptions _ rfl (by decide) (by simp [sampleInterruptions, Repeats]) 2
    (.recoverOne "saga") (by decide) ⟨rfl, _, rfl⟩ (by decide) (List.replicate 27 0)
    (List.replicate 27 0) (by decide) (by decide) _ _ rfl rfl⟩

end Delego.Saga
