import Delego.Saga.Step
import Delego.Shared.EventLog

set_option autoImplicit false

namespace Delego.Saga

open Shared EventLog

variable {Context : Type}

/-- What becomes of one query: it is answered, or its connection breaks before or after it was carried out. -/
inductive Reply where
  | answered
  | lost (message : String) (effective : Bool)
  deriving DecidableEq

/-- What PostgreSQL makes of the values it is given: the ids that it refuses in a query, the rows that it refuses
for more than the types of their columns, and what is read back of a context that is stored as JSONB. It refuses
no row for its timestamps, and what has been read back once is read back the same again. -/
structure Postgres (Context : Type) where
  idError : String → Option String
  valueError : SagaRecord Context → Option String
  jsonb : Context → Context
  restamped : ∀ row createdAt updatedAt, valueError { row with createdAt, updatedAt } = valueError row
  reread : ∀ context, jsonb (jsonb context) = jsonb context

variable (postgres : Postgres Context)

namespace PostgresSagaStore

-- `VARCHAR(128)` and `INTEGER`.
def columnError (row : SagaRecord Context) : Option String :=
  if 128 < row.sagaId.length ∨ 128 < row.orderId.length ∨ ∃ step ∈ row.currentStep, 128 < step.length then
    some "value too long for type character varying(128)"
  else if 2147483647 < row.version then some "integer out of range"
  else none

def rowError (row : SagaRecord Context) : Option String := columnError row <|> postgres.valueError row

-- `none` is a query that finds no row; the time is the one that Sequelize stamps the row with.
def createIfNotExists (table : SagaStore Context) (record : SagaRecord Context) (now : Nat) :
    Except String (Option (SagaRecord Context)) × SagaStore Context :=
  match postgres.idError record.sagaId, table record.sagaId with
  | some message, _ => (.error message, table)
  | none, some row => (.ok (some row), table)
  | none, none =>
    let row :=
      { record with
        context := postgres.jsonb record.context
        version := 0
        claimExpiresAt := none
        createdAt := now
        updatedAt := now }
    match rowError postgres row with
    | some message => (.error message, table)
    | none => (.ok (some row), Function.update table record.sagaId (some row))

def get (table : SagaStore Context) (sagaId : String) :
    Except String (Option (SagaRecord Context)) × SagaStore Context :=
  match postgres.idError sagaId with
  | some message => (.error message, table)
  | none => (.ok (table sagaId), table)

-- Here `none` is the SagaConcurrencyError: no row of that id has that version.
def save (table : SagaStore Context) (record : SagaRecord Context) (now : Nat) :
    Except String (Option (SagaRecord Context)) × SagaStore Context :=
  match postgres.idError record.sagaId, table record.sagaId with
  | some message, _ => (.error message, table)
  | none, none => (.ok none, table)
  | none, some row =>
    if row.version ≠ record.version then (.ok none, table)
    else
      let updated :=
        { row with
          status := record.status
          completedSteps := record.completedSteps
          context := postgres.jsonb record.context
          currentStep := record.currentStep
          error := record.error
          claimExpiresAt := record.claimExpiresAt
          version := record.version + 1
          updatedAt := now }
      match rowError postgres updated with
      | some message => (.error message, table)
      | none => (.ok (some updated), Function.update table record.sagaId (some updated))

end PostgresSagaStore

def Reply.deliver (table : SagaStore Context)
    (result : Except String (Option (SagaRecord Context)) × SagaStore Context) :
    Reply → Except String (Option (SagaRecord Context)) × SagaStore Context
  | .answered => result
  | .lost message effective => (.error message, if effective then result.2 else table)

def Phase.query (table : SagaStore Context) (now : Nat) :
    Phase Context → Option (Except String (Option (SagaRecord Context)) × SagaStore Context)
  | .creating record => some (PostgresSagaStore.createIfNotExists postgres table record now)
  | .loading sagaId | .rereading sagaId => some (PostgresSagaStore.get postgres table sagaId)
  | .saving _ draft _ => some (PostgresSagaStore.save postgres table draft now)
  | _ => none

-- How a runner goes on with the answer: `recoverOne` ends at the first error, and any other call throws it.
def Phase.received (definition : SagaDefinition) (answer : Except String (Option (SagaRecord Context))) :
    Phase Context → Phase Context
  | .creating record =>
    match answer with
    | .ok (some existing) => enter definition existing
    | .ok none => .creating record
    | .error message => .settled (.error message)
  | .loading sagaId =>
    match answer with
    | .ok (some record) => enter definition record
    | .ok none => .settled (.error ("Saga not found: " ++ sagaId))
    | .error message => .settled (.error message)
  | .saving current _ next =>
    match answer with
    | .ok (some saved) => stored saved next
    | .ok none => lost current next
    | .error message => .settled (.error message)
  | .rereading _ =>
    match answer with
    | .ok (some latest) => .rescheduling latest
    | .ok none | .error _ => .recovered
  | phase => phase

inductive PostgresInput (Context : Type) where
  | tick (elapsedMs : Nat)
  | start (runner : Nat) (call : SagaCall Context)
  | fire (runner : Nat) (timer : Nat)
  | proceed (runner : Nat) (now : Nat) (reply : Reply)
  | settle (runner : Nat) (outcome : Except String Context)
  | crash (runner : Nat)

def PostgresInput.plain : PostgresInput Context → Input Context
  | .tick elapsedMs => .tick elapsedMs
  | .start id call => .start id call
  | .fire id timer => .fire id timer
  | .proceed id _ _ => .proceed id
  | .settle id outcome => .settle id outcome
  | .crash id => .crash id

def SagaCall.converted : SagaCall Context → SagaCall Context
  | .run sagaId orderId initialContext => .run sagaId orderId (postgres.jsonb initialContext)
  | call => call

def Input.converted : Input Context → Input Context
  | .start id call => .start id (call.converted postgres)
  | .settle id outcome => .settle id (outcome.map postgres.jsonb)
  | input => input

/-- The coordinator over PostgresSagaStore: only what waits for a query differs. -/
def postgresStep (definition : SagaDefinition) (claimLeaseMs : Nat → Nat) (system : System Context)
    (input : PostgresInput Context) : Option SagaEvent × System Context :=
  match input with
  | .proceed id now reply =>
    let runner := system.runners id
    match runner.phase.query postgres system.store now with
    | none => step definition claimLeaseMs system (.proceed id)
    | some result =>
      if runner.crashed then (none, system)
      else
        let (answer, store) := reply.deliver system.store result
        (none, { system.withRunner id { runner with phase := runner.phase.received definition answer } with
          store })
  | input => step definition claimLeaseMs system input.plain

/-- The same row, but for its timestamps, which no runner reads; its context has been read back. -/
def Restamped (record row : SagaRecord Context) : Prop :=
  ∃ createdAt updatedAt, row = { record with createdAt, updatedAt } ∧
    postgres.jsonb record.context = record.context

-- A draft on its way to the database may have another context, which is read back as the record's.
def Drafted (record draft : SagaRecord Context) : Prop :=
  ∃ context createdAt updatedAt, draft = { record with context, createdAt, updatedAt } ∧
    postgres.jsonb context = record.context

inductive Alike : Phase Context → Phase Context → Prop
  | idle : Alike .idle .idle
  | creating {record row : SagaRecord Context} (same : Drafted postgres record row)
      (unclaimed : record.claimExpiresAt = none) : Alike (.creating record) (.creating row)
  | loading (sagaId : String) : Alike (.loading sagaId) (.loading sagaId)
  | looping {current row : SagaRecord Context} (mode : Mode) (remaining : List String)
      (same : Restamped postgres current row) :
      Alike (.looping mode current remaining) (.looping mode row remaining)
  | claiming {current row : SagaRecord Context} (mode : Mode) (stepName : String) (rest : List String)
      (same : Restamped postgres current row) :
      Alike (.claiming mode current stepName rest) (.claiming mode row stepName rest)
  | working {current row : SagaRecord Context} (mode : Mode) (stepName : String) (rest : List String)
      (same : Restamped postgres current row) :
      Alike (.working mode current stepName rest) (.working mode row stepName rest)
  | saving {current draft row written : SagaRecord Context} (next : Next) (same : Restamped postgres current row)
      (drafted : Drafted postgres draft written) : Alike (.saving current draft next) (.saving row written next)
  | returned {record row : SagaRecord Context} (same : Restamped postgres record row) :
      Alike (.settled (.ok record)) (.settled (.ok row))
  | threw (message : String) : Alike (.settled (.error message)) (.settled (.error message))
  | rereading (sagaId : String) : Alike (.rereading sagaId) (.rereading sagaId)
  | rescheduling {latest row : SagaRecord Context} (same : Restamped postgres latest row) :
      Alike (.rescheduling latest) (.rescheduling row)
  | recovered : Alike .recovered .recovered

-- A call that a query has failed goes no further.
inductive Broken : Phase Context → Prop
  | threw (message : String) : Broken (.settled (.error message))
  | recovered : Broken .recovered

structure Abreast (runner other : Runner Context) : Prop where
  recovering : other.recovering = runner.recovering
  crashed : other.crashed = runner.crashed
  phases : Alike postgres runner.phase other.phase

-- Or a failed query has stopped it, where the other one has crashed.
inductive Follows (runner other : Runner Context) : Prop
  | abreast (abreast : Abreast postgres runner other)
  | broken (crashed : runner.crashed = true) (ended : Broken other.phase)

def Rows (store table : SagaStore Context) : Prop :=
  ∀ sagaId, Option.Rel (Restamped postgres) (store sagaId) (table sagaId)

structure Mirrors (definition : SagaDefinition) (follows : Runner Context → Runner Context → Prop)
    (system other : System Context) : Prop where
  formed : Formed definition system
  clock : other.clock = system.clock
  timers : other.timers = system.timers
  rows : Rows postgres system.store other.store
  runners : ∀ id, follows (system.runners id) (other.runners id)

def Phase.asks : Phase Context → Option String
  | .creating record => some record.sagaId
  | .loading sagaId | .rereading sagaId => some sagaId
  | .saving _ draft _ => some draft.sagaId
  | _ => none

/-- Everything that is stored, and that is asked for, is what the database takes. -/
structure Fits (system : System Context) : Prop where
  rows : ∀ sagaId record, system.store sagaId = some record → PostgresSagaStore.rowError postgres record = none
  ids : ∀ id sagaId, (system.runners id).phase.asks = some sagaId → postgres.idError sagaId = none

variable {postgres}

section Stamps

variable {definition : SagaDefinition} {record row current draft written : SagaRecord Context}
  {phase other : Phase Context} {clock now : Nat} {next : Next}

theorem drafted_kept (draft : SagaRecord Context) (kept : postgres.jsonb draft.context = draft.context)
    (createdAt updatedAt : Nat) :
    Drafted postgres draft { draft with createdAt, updatedAt } :=
  ⟨draft.context, createdAt, updatedAt, rfl, kept⟩

theorem drafted_converted (draft : SagaRecord Context) (createdAt updatedAt : Nat) :
    Drafted postgres { draft with context := postgres.jsonb draft.context } { draft with createdAt, updatedAt } :=
  ⟨draft.context, createdAt, updatedAt, rfl, rfl⟩

theorem reread_kept {context : Context} (read : postgres.jsonb context = record.context) :
    postgres.jsonb record.context = record.context := by
  rw [← read, postgres.reread]

theorem enter_alike (same : Restamped postgres record row) :
    Alike postgres (enter definition record) (enter definition row) := by
  obtain ⟨createdAt, updatedAt, rfl, kept⟩ := same
  have stamped : Restamped postgres record { record with createdAt, updatedAt } :=
    ⟨createdAt, updatedAt, rfl, kept⟩
  unfold enter advance compensate
  dsimp only
  split
  · exact .returned stamped
  · split
    · exact .looping _ _ stamped
    · exact .looping _ _ stamped

theorem lost_alike (same : Restamped postgres current row) (next : Next) :
    Alike postgres (lost current next) (lost row next) := by
  obtain ⟨createdAt, updatedAt, rfl, kept⟩ := same
  cases next with
  | work => exact .returned ⟨createdAt, updatedAt, rfl, kept⟩
  | again | compensate | abort | finish => exact .threw _

theorem stored_alike (same : Restamped postgres record row) (next : Next) :
    Alike postgres (stored record next) (stored row next) := by
  cases next with
  | work mode stepName rest => exact .working _ _ _ same
  | again mode rest => exact .looping _ _ same
  | compensate message =>
    obtain ⟨createdAt, updatedAt, rfl, kept⟩ := same
    exact .looping _ _ ⟨createdAt, updatedAt, rfl, kept⟩
  | abort message => exact .threw message
  | finish => exact .returned same

theorem loop_alike (same : Restamped postgres current row) (mode : Mode) (remaining : List String) :
    Alike postgres (loop definition clock mode current remaining) (loop definition clock mode row remaining) := by
  obtain ⟨createdAt, updatedAt, rfl, kept⟩ := same
  have stamped : Restamped postgres current { current with createdAt, updatedAt } :=
    ⟨createdAt, updatedAt, rfl, kept⟩
  cases remaining with
  | nil =>
    cases mode with
    | advancing => exact .saving _ stamped (drafted_kept (current.completed clock) kept createdAt clock)
    | compensating error => exact .saving _ stamped (drafted_kept (current.failed clock) kept createdAt clock)
  | cons stepName rest =>
    have leases : leased clock { current with createdAt, updatedAt } stepName ↔
        leased clock current stepName := Iff.rfl
    by_cases known : stepName ∈ definition.stepOrder
    · by_cases live : leased clock current stepName
      · simp only [loop, known, leases, live, not_true, if_false, if_true]
        exact .returned stamped
      · simp only [loop, known, leases, live, not_true, if_false]
        exact .claiming _ _ _ stamped
    · simp only [loop, known, not_false_iff, if_true]
      cases mode with
      | advancing => exact .threw _
      | compensating error =>
        exact .saving _ stamped (drafted_kept (current.orphaned _ clock) kept createdAt clock)

theorem settle_alike (clock : Nat) (outcome : Except String Context) (alike : Alike postgres phase other) :
    Option.Rel (fun before after => before.1 = after.1 ∧ Alike postgres before.2 after.2)
      (settle clock (outcome.map postgres.jsonb) phase) (settle clock outcome other) := by
  cases alike with
  | @working current row mode stepName rest same =>
    obtain ⟨createdAt, updatedAt, rfl, kept⟩ := same
    cases mode with
    | advancing =>
      cases outcome with
      | ok context =>
        exact .some ⟨rfl, .saving _ ⟨createdAt, updatedAt, rfl, kept⟩
          (drafted_converted (current.acted stepName context clock) createdAt clock)⟩
      | error message =>
        exact .some ⟨rfl, .saving _ ⟨createdAt, updatedAt, rfl, kept⟩
          (drafted_kept (current.rejected message clock) kept createdAt clock)⟩
    | compensating error =>
      cases outcome with
      | ok context =>
        exact .some ⟨rfl, .saving _ ⟨createdAt, updatedAt, rfl, kept⟩
          (drafted_converted (current.compensated stepName context clock) createdAt clock)⟩
      | error message =>
        exact .some ⟨rfl, .saving _ ⟨createdAt, updatedAt, rfl, kept⟩
          (drafted_kept (current.released clock) kept createdAt clock)⟩
  | idle | creating | loading | looping | claiming | saving | returned | threw | rereading | rescheduling
  | recovered => exact .none

theorem Alike.isIdle (alike : Alike postgres phase other) : other.isIdle = phase.isIdle := by
  cases alike <;> rfl

theorem Broken.busy (ended : Broken phase) : phase.isIdle = false := by
  cases ended <;> rfl

theorem scheduleRetry_restamped (same : Restamped postgres record row) :
    scheduleRetryIfLeased clock row = scheduleRetryIfLeased clock record := by
  obtain ⟨createdAt, updatedAt, rfl, kept⟩ := same
  rfl

end Stamps

section Queries

open PostgresSagaStore

variable {definition : SagaDefinition} {record row current draft written : SagaRecord Context}
  {store table : SagaStore Context} {phase other : Phase Context} {clock now : Nat} {next : Next}

theorem Rows.update (rows : Rows postgres store table) (sagaId : String) (same : Restamped postgres record row) :
    Rows postgres (Function.update store sagaId (some record)) (Function.update table sagaId (some row)) := by
  intro other
  by_cases here : other = sagaId
  · subst here
    simp only [Function.update_self]
    exact .some same
  · simp only [Function.update_of_ne here]
    exact rows other

theorem Rows.found (rows : Rows postgres store table) {sagaId : String} (found : store sagaId = some record) :
    ∃ row, table sagaId = some row ∧ Restamped postgres record row := by
  have held := rows sagaId
  rw [found] at held
  generalize table sagaId = slot at held ⊢
  cases held with
  | some same => exact ⟨_, rfl, same⟩

theorem Rows.absent (rows : Rows postgres store table) {sagaId : String} (absent : store sagaId = none) :
    table sagaId = none := by
  have held := rows sagaId
  rw [absent] at held
  generalize table sagaId = slot at held ⊢
  cases held
  rfl

theorem Restamped.rowError (same : Restamped postgres record row) :
    rowError postgres row = rowError postgres record := by
  obtain ⟨createdAt, updatedAt, rfl, _⟩ := same
  simp only [PostgresSagaStore.rowError, postgres.restamped]
  rfl

-- Why a query is refused: for the id that it asks for, or for the row that it would leave.
def Declined (postgres : Postgres Context) (phase : Phase Context) (store : SagaStore Context) : Prop :=
  (∃ sagaId, phase.asks = some sagaId ∧ postgres.idError sagaId ≠ none) ∨
    ∃ sagaId record, store sagaId = some record ∧ rowError postgres record ≠ none

theorem refused_id {sagaId message : String} (asks : phase.asks = some sagaId)
    (refused : postgres.idError sagaId = some message) : Declined postgres phase store :=
  .inl ⟨sagaId, asks, by simp [refused]⟩

theorem refused_row {message : String} (same : Restamped postgres record row)
    (refused : rowError postgres row = some message) (sagaId : String) :
    Declined postgres phase (Function.update store sagaId (some record)) := by
  refine .inr ⟨sagaId, record, Function.update_self .., ?_⟩
  rw [← same.rowError, refused]
  exact Option.some_ne_none message

theorem created_alike (now : Nat) (rows : Rows postgres store table) (same : Drafted postgres record row)
    (unclaimed : record.claimExpiresAt = none) :
    ((∃ message, createIfNotExists postgres table row now = (.error message, table)) ∧
        Declined postgres (.creating record) (store.createIfNotExists record).2) ∨
      ∃ existing, (createIfNotExists postgres table row now).1 = .ok (some existing) ∧
        Restamped postgres (store.createIfNotExists record).1 existing ∧
        Rows postgres (store.createIfNotExists record).2 (createIfNotExists postgres table row now).2 := by
  obtain ⟨context, createdAt, updatedAt, rfl, read⟩ := same
  have kept := reread_kept read
  cases taken : postgres.idError record.sagaId with
  | some message =>
    refine .inl ⟨⟨message, ?_⟩, refused_id rfl taken⟩
    simp only [createIfNotExists, taken]
  | none =>
    cases found : store record.sagaId with
    | some existing =>
      obtain ⟨row, stored, same⟩ := rows.found found
      simp only [createIfNotExists, SagaStore.createIfNotExists, taken, found, stored]
      exact .inr ⟨row, rfl, same, rows⟩
    | none =>
      have absent := rows.absent found
      have stamped : Restamped postgres { record with version := 0 } { record with
          context := postgres.jsonb context, version := 0, claimExpiresAt := none, createdAt := now,
          updatedAt := now } :=
        ⟨now, now, by rw [read, ← unclaimed], kept⟩
      simp only [createIfNotExists, SagaStore.createIfNotExists, taken, found, absent]
      split
      next message refused => exact .inl ⟨⟨message, rfl⟩, refused_row stamped refused _⟩
      next => exact .inr ⟨_, rfl, stamped, rows.update _ stamped⟩

theorem Write.orderId (write : Write definition clock current next draft) :
    draft.orderId = current.orderId := by
  cases write <;> rfl

/-- A save of a runner's own draft writes the same row: what the UPDATE leaves as it was is what the draft
has kept of the record it was made from. -/
theorem saved_alike (claimLeaseMs now : Nat) (recovering : Bool)
    (sound : Sound definition clock store (.saving current draft next)) (rows : Rows postgres store table)
    (same : Drafted postgres draft written) :
    ((∃ message, save postgres table written now = (.error message, table)) ∧
        Declined postgres (.saving current draft next)
          (proceed definition claimLeaseMs clock recovering store (.saving current draft next)).1) ∨
      (store.save draft = none ∧ save postgres table written now = (.ok none, table)) ∨
      ∃ saved store' updated, store.save draft = some (saved, store') ∧
        (save postgres table written now).1 = .ok (some updated) ∧ Restamped postgres saved updated ∧
        Rows postgres store' (save postgres table written now).2 := by
  obtain ⟨context, createdAt, updatedAt, rfl, read⟩ := same
  have kept := reread_kept read
  obtain ⟨⟨held, found, _, current'⟩, write⟩ := sound
  rw [← write.sagaId] at found
  obtain ⟨row, stored, ⟨createdAt', updatedAt', rfl, _⟩⟩ := rows.found found
  cases taken : postgres.idError draft.sagaId with
  | some message =>
    refine .inl ⟨⟨message, ?_⟩, refused_id rfl taken⟩
    simp only [save, taken]
  | none =>
    by_cases fresh : held.version = draft.version
    · have unchanged := current' (fresh.trans write.version)
      have order : held.orderId = draft.orderId := by
        rw [unchanged, write.orderId]
      have named : held.sagaId = draft.sagaId := by
        rw [unchanged, write.sagaId]
      have stamped : Restamped postgres draft.bumped { held with
          status := draft.status, completedSteps := draft.completedSteps, context := postgres.jsonb context
          currentStep := draft.currentStep, error := draft.error, claimExpiresAt := draft.claimExpiresAt
          version := draft.version + 1, createdAt := createdAt', updatedAt := now } :=
        ⟨createdAt', now, by simp [SagaRecord.bumped, order, named, read], kept⟩
      simp only [proceed, save, SagaStore.save, taken, found, stored, fresh, ne_eq, not_true, if_false]
      split
      next message refused => exact .inl ⟨⟨message, rfl⟩, refused_row stamped refused _⟩
      next => exact .inr (.inr ⟨_, _, _, rfl, rfl, stamped, rows.update _ stamped⟩)
    · simp only [save, SagaStore.save, taken, found, stored, fresh, ne_eq, not_false_iff, if_true]
      exact .inr (.inl ⟨trivial, trivial⟩)

theorem query_turned (claimLeaseMs : Nat) (recovering : Bool)
    {result : Except String (Option (SagaRecord Context)) × SagaStore Context}
    (sound : Sound definition clock store phase) (rows : Rows postgres store table)
    (alike : Alike postgres phase other) (queried : other.query postgres table now = some result) :
    (proceed definition claimLeaseMs clock recovering store phase).2.2 = none ∧
    ((∃ message, result = (.error message, table)) ∧
        Declined postgres phase (proceed definition claimLeaseMs clock recovering store phase).1 ∨
      Rows postgres (proceed definition claimLeaseMs clock recovering store phase).1 result.2 ∧
        Alike postgres (proceed definition claimLeaseMs clock recovering store phase).2.1
          (other.received definition result.1)) := by
  cases alike with
  | creating same unclaimed =>
    cases queried
    refine ⟨rfl, ?_⟩
    rcases created_alike now rows same unclaimed with refused | ⟨existing, answered, held, kept⟩
    · exact .inl refused
    · refine .inr ⟨kept, ?_⟩
      simp only [proceed, Phase.received, answered]
      exact enter_alike held
  | loading sagaId =>
    cases queried
    cases taken : postgres.idError sagaId with
    | some message =>
      have turn : (proceed definition claimLeaseMs clock recovering store (.loading sagaId)).2.2 = none := by
        simp only [proceed]
        split <;> rfl
      refine ⟨turn, .inl ⟨⟨message, ?_⟩, refused_id rfl taken⟩⟩
      simp only [PostgresSagaStore.get, taken]
    | none =>
      cases found : store sagaId with
      | none =>
        simp only [proceed, SagaStore.get, PostgresSagaStore.get, Phase.received, taken, found, rows.absent found]
        exact ⟨trivial, .inr ⟨rows, .threw _⟩⟩
      | some record =>
        obtain ⟨row, stored, same⟩ := rows.found found
        simp only [proceed, SagaStore.get, PostgresSagaStore.get, Phase.received, taken, found, stored]
        exact ⟨trivial, .inr ⟨rows, enter_alike same⟩⟩
  | saving next same drafted =>
    cases queried
    have turn (current draft : SagaRecord Context) :
        (proceed definition claimLeaseMs clock recovering store (.saving current draft next)).2.2 = none := by
      simp only [proceed]
      split <;> rfl
    refine ⟨turn _ _, ?_⟩
    rcases saved_alike claimLeaseMs now recovering sound rows drafted with
      refused | ⟨missed, answered⟩ | ⟨saved, store', updated, kept, answered, held, after⟩
    · exact .inl refused
    · simp only [proceed, missed, answered, Phase.received]
      exact .inr ⟨rows, lost_alike same next⟩
    · simp only [proceed, kept, answered, Phase.received]
      exact .inr ⟨after, stored_alike held next⟩
  | rereading sagaId =>
    cases queried
    cases taken : postgres.idError sagaId with
    | some message =>
      have turn : (proceed definition claimLeaseMs clock recovering store (.rereading sagaId)).2.2 = none := by
        simp only [proceed]
        split <;> rfl
      refine ⟨turn, .inl ⟨⟨message, ?_⟩, refused_id rfl taken⟩⟩
      simp only [PostgresSagaStore.get, taken]
    | none =>
      cases found : store sagaId with
      | none =>
        simp only [proceed, SagaStore.get, PostgresSagaStore.get, Phase.received, taken, found, rows.absent found]
        exact ⟨trivial, .inr ⟨rows, .recovered⟩⟩
      | some record =>
        obtain ⟨row, stored, same⟩ := rows.found found
        simp only [proceed, SagaStore.get, PostgresSagaStore.get, Phase.received, taken, found, stored]
        exact ⟨trivial, .inr ⟨rows, .rescheduling same⟩⟩
  | idle | looping | claiming | working | returned | threw | rescheduling | recovered => cases queried

theorem received_broken {result : Except String (Option (SagaRecord Context)) × SagaStore Context}
    (queried : other.query postgres table now = some result) (message : String) :
    Broken (other.received definition (.error message)) := by
  cases other with
  | creating | loading | saving => exact .threw message
  | rereading => exact .recovered
  | idle | looping | claiming | working | settled | rescheduling | recovered => cases queried

/-- Between two queries a runner does not look at the table. -/
theorem unqueried_alike (definition : SagaDefinition) (claimLeaseMs clock : Nat) (recovering : Bool)
    (store : SagaStore Context) (alike : Alike postgres phase other)
    (unqueried : other.query postgres table now = none) :
    (proceed definition claimLeaseMs clock recovering table other).1 = table ∧
    (proceed definition claimLeaseMs clock recovering store phase).1 = store ∧
    (proceed definition claimLeaseMs clock recovering table other).2.2 =
      (proceed definition claimLeaseMs clock recovering store phase).2.2 ∧
    Alike postgres (proceed definition claimLeaseMs clock recovering store phase).2.1
      (proceed definition claimLeaseMs clock recovering table other).2.1 := by
  cases alike with
  | looping mode remaining same => exact ⟨rfl, rfl, rfl, loop_alike same mode remaining⟩
  | claiming mode stepName rest same =>
    obtain ⟨createdAt, updatedAt, rfl, kept⟩ := same
    exact ⟨rfl, rfl, rfl, .saving _ ⟨createdAt, updatedAt, rfl, kept⟩
      (drafted_kept (SagaRecord.claimed _ stepName _ clock) kept createdAt clock)⟩
  | returned same =>
    obtain ⟨createdAt, updatedAt, rfl, kept⟩ := same
    cases recovering with
    | false => exact ⟨rfl, rfl, rfl, .returned ⟨createdAt, updatedAt, rfl, kept⟩⟩
    | true =>
      refine ⟨rfl, rfl, rfl, ?_⟩
      rename_i record
      simp only [proceed, if_true]
      by_cases freed : incomplete record ∧ record.claimExpiresAt = none
      · rw [if_pos freed, if_pos]
        · exact .rereading _
        · exact freed
      · rw [if_neg freed, if_neg]
        · exact .recovered
        · exact freed
  | threw message =>
    cases recovering with
    | false => exact ⟨rfl, rfl, rfl, .threw message⟩
    | true => exact ⟨rfl, rfl, rfl, .recovered⟩
  | rescheduling same => exact ⟨rfl, rfl, scheduleRetry_restamped same, .recovered⟩
  | idle => exact ⟨rfl, rfl, rfl, .idle⟩
  | working mode stepName rest same => exact ⟨rfl, rfl, rfl, .working _ _ _ same⟩
  | recovered => exact ⟨rfl, rfl, rfl, .recovered⟩
  | creating | loading | saving | rereading => cases unqueried

end Queries

section Simulation

variable {definition : SagaDefinition} {claimLeaseMs : Nat → Nat}
  {follows : Runner Context → Runner Context → Prop} {system after other next : System Context}
  {runner runner' : Runner Context}

theorem Mirrors.elsewhere (mirrors : Mirrors postgres definition follows system other)
    (formed : Formed definition after) (store : after.store = system.store) (table : next.store = other.store)
    (clock : next.clock = after.clock) (timers : next.timers = after.timers)
    (runners : ∀ id, follows (after.runners id) (next.runners id)) :
    Mirrors postgres definition follows after next where
  formed
  clock
  timers
  rows := by
    rw [store, table]
    exact mirrors.rows
  runners

theorem follows_update {runners others : Nat → Runner Context}
    (follow : ∀ id, follows (runners id) (others id)) (id : Nat) (followed : follows runner runner') :
    ∀ place, follows (Function.update runners id runner place) (Function.update others id runner' place) := by
  intro place
  by_cases here : place = id
  · subst here
    simp only [Function.update_self]
    exact followed
  · simp only [Function.update_of_ne here]
    exact follow place

theorem follows_over {runners others : Nat → Runner Context}
    (follow : ∀ id, follows (runners id) (others id)) (id : Nat) (followed : follows (runners id) runner') :
    ∀ place, follows (runners place) (Function.update others id runner' place) := by
  have both := follows_update follow id followed
  rwa [Function.update_eq_self] at both

theorem begin_abreast (definition : SagaDefinition) (clock : Nat) (call : SagaCall Context) :
    Abreast postgres (begin definition clock (call.converted postgres)) (begin definition clock call) := by
  cases call with
  | run sagaId orderId initialContext => exact ⟨rfl, rfl, .creating ⟨initialContext, clock, clock, rfl, rfl⟩ rfl⟩
  | resume sagaId => exact ⟨rfl, rfl, .loading sagaId⟩
  | recoverOne sagaId => exact ⟨rfl, rfl, .loading sagaId⟩

theorem formed_step (claimLeaseMs : Nat → Nat) (formed : Formed definition system) (input : Input Context) :
    Formed definition (step definition claimLeaseMs system input).2 :=
  (step_systemStep claimLeaseMs formed input).formed formed

theorem step_proceed {id : Nat} (alive : (system.runners id).crashed = false) :
    step definition claimLeaseMs system (.proceed id) =
      (none,
        { system.withRunner id { system.runners id with
            phase := (proceed definition (claimLeaseMs id) system.clock (system.runners id).recovering system.store
              (system.runners id).phase).2.1 } with
          store := (proceed definition (claimLeaseMs id) system.clock (system.runners id).recovering system.store
            (system.runners id).phase).1
          timers := system.timers ++ (proceed definition (claimLeaseMs id) system.clock
            (system.runners id).recovering system.store (system.runners id).phase).2.2.toList }) := by
  simp only [step, alive]
  rfl

theorem postgresStep_query {id now : Nat} {reply : Reply}
    {result : Except String (Option (SagaRecord Context)) × SagaStore Context}
    (alive : (other.runners id).crashed = false)
    (queried : (other.runners id).phase.query postgres other.store now = some result) :
    postgresStep postgres definition claimLeaseMs other (.proceed id now reply) =
      (none,
        { other.withRunner id { other.runners id with
            phase := (other.runners id).phase.received definition (reply.deliver other.store result).1 } with
          store := (reply.deliver other.store result).2 }) := by
  simp only [postgresStep, queried, alive]
  rfl

theorem postgresStep_crashed {id now : Nat} {reply : Reply} (stopped : (other.runners id).crashed = true) :
    postgresStep postgres definition claimLeaseMs other (.proceed id now reply) = (none, other) := by
  simp only [postgresStep, step, stopped]
  split <;> rfl

theorem initial_mirrors (definition : SagaDefinition) (clock : Nat)
    (follow : follows .idle .idle) :
    Mirrors postgres definition follows (.initial clock) (.initial clock) where
  formed := initial_formed definition clock
  clock := rfl
  timers := rfl
  rows _ := .none
  runners _ := follow

def Together (postgres : Postgres Context) (definition : SagaDefinition) (claimLeaseMs : Nat → Nat)
    (follows : Runner Context → Runner Context → Prop) (system other : System Context)
    (input : PostgresInput Context) : Prop :=
  (step definition claimLeaseMs system (input.plain.converted postgres)).1 =
      (postgresStep postgres definition claimLeaseMs other input).1 ∧
    Mirrors postgres definition follows (step definition claimLeaseMs system (input.plain.converted postgres)).2
      (postgresStep postgres definition claimLeaseMs other input).2

theorem tick_together (mirrors : Mirrors postgres definition follows system other) (elapsedMs : Nat) :
    Together postgres definition claimLeaseMs follows system other (.tick elapsedMs) :=
  ⟨rfl, mirrors.elsewhere (formed_step claimLeaseMs mirrors.formed _) rfl rfl
    (congrArg (· + elapsedMs) mirrors.clock) mirrors.timers mirrors.runners⟩

theorem crash_together (mirrors : Mirrors postgres definition follows system other) (id : Nat)
    (stopped : follows { system.runners id with crashed := true } { other.runners id with crashed := true }) :
    Together postgres definition claimLeaseMs follows system other (.crash id) :=
  ⟨rfl, mirrors.elsewhere (formed_step claimLeaseMs mirrors.formed (.crash id)) rfl rfl mirrors.clock
    mirrors.timers (follows_update mirrors.runners id stopped)⟩

theorem Abreast.crash (abreast : Abreast postgres runner runner') :
    Abreast postgres { runner with crashed := true } { runner' with crashed := true } :=
  ⟨abreast.recovering, rfl, abreast.phases⟩

section Abreast

variable (wider : ∀ runner runner' : Runner Context, Abreast postgres runner runner' → follows runner runner')
  (mirrors : Mirrors postgres definition follows system other)

include wider mirrors

theorem start_together (id : Nat) (call : SagaCall Context)
    (abreast : Abreast postgres (system.runners id) (other.runners id)) :
    Together postgres definition claimLeaseMs follows system other (.start id call) := by
  have formed := formed_step claimLeaseMs mirrors.formed (.start id (call.converted postgres))
  unfold Together
  simp only [postgresStep, PostgresInput.plain, Input.converted, step, abreast.phases.isIdle, mirrors.clock]
    at formed ⊢
  by_cases idle : (system.runners id).phase.isIdle = true
  · rw [if_pos idle] at formed
    rw [if_pos idle, if_pos idle]
    exact ⟨rfl, mirrors.elsewhere formed rfl rfl mirrors.clock mirrors.timers
      (follows_update mirrors.runners id (wider _ _ (begin_abreast definition system.clock call)))⟩
  · rw [if_neg idle, if_neg idle]
    exact ⟨rfl, mirrors⟩

theorem fire_together (id timer : Nat) (abreast : Abreast postgres (system.runners id) (other.runners id)) :
    Together postgres definition claimLeaseMs follows system other (.fire id timer) := by
  have formed := formed_step claimLeaseMs mirrors.formed (.fire id timer)
  unfold Together
  simp only [postgresStep, PostgresInput.plain, Input.converted, step, abreast.phases.isIdle, mirrors.timers,
    mirrors.clock] at formed ⊢
  cases found : system.timers[timer]? with
  | none => exact ⟨rfl, mirrors⟩
  | some set =>
    obtain ⟨sagaId, due⟩ := set
    simp only [found] at formed ⊢
    by_cases ready : (system.runners id).phase.isIdle = true ∧ due ≤ system.clock
    · rw [if_pos ready] at formed
      rw [if_pos ready, if_pos ready]
      have begun : Abreast postgres _ _ :=
        begin_abreast definition system.clock (.recoverOne sagaId : SagaCall Context)
      exact ⟨rfl, mirrors.elsewhere formed rfl rfl mirrors.clock rfl
        (follows_update mirrors.runners id (wider _ _ begun))⟩
    · rw [if_neg ready, if_neg ready]
      exact ⟨rfl, mirrors⟩

theorem settle_together (id : Nat) (outcome : Except String Context)
    (abreast : Abreast postgres (system.runners id) (other.runners id)) :
    Together postgres definition claimLeaseMs follows system other (.settle id outcome) := by
  have settled := settle_alike system.clock outcome abreast.phases
  have formed := formed_step claimLeaseMs mirrors.formed (.settle id (outcome.map postgres.jsonb))
  unfold Together
  simp only [postgresStep, PostgresInput.plain, Input.converted, step, mirrors.clock, abreast.crashed] at formed ⊢
  by_cases stopped : (system.runners id).crashed = true
  · rw [if_pos stopped, if_pos stopped]
    exact ⟨rfl, mirrors⟩
  · rw [if_neg stopped] at formed
    rw [if_neg stopped, if_neg stopped]
    generalize settle system.clock outcome (other.runners id).phase = settled' at settled ⊢
    generalize settle system.clock (outcome.map postgres.jsonb) (system.runners id).phase = settled''
      at settled formed ⊢
    cases settled with
    | none => exact ⟨rfl, mirrors⟩
    | @some turn turn' same =>
      exact ⟨congrArg some same.1, mirrors.elsewhere formed rfl rfl mirrors.clock mirrors.timers
        (follows_update mirrors.runners id (wider _ _ ⟨abreast.recovering, rfl, same.2⟩))⟩

/-- A turn whose query, if it has one, is answered: the database refuses only a record that does not fit. -/
theorem proceed_together (id now : Nat) (abreast : Abreast postgres (system.runners id) (other.runners id)) :
    Together postgres definition claimLeaseMs follows system other (.proceed id now .answered) ∨
      (∃ message, (other.runners id).phase.query postgres other.store now = some (.error message, other.store)) ∧
        Declined postgres (system.runners id).phase
          (step definition claimLeaseMs system (.proceed id)).2.store := by
  unfold Together
  simp only [PostgresInput.plain, Input.converted]
  cases stopped : (system.runners id).crashed with
  | true =>
    rw [postgresStep_crashed (abreast.crashed.trans stopped)]
    simp only [step, stopped, if_true]
    exact .inl ⟨trivial, mirrors⟩
  | false =>
    have alive := abreast.crashed.trans stopped
    have formed := formed_step claimLeaseMs mirrors.formed (.proceed id)
    rw [step_proceed stopped] at formed ⊢
    cases queried : (other.runners id).phase.query postgres other.store now with
    | none =>
      obtain ⟨table, store, timer, alike⟩ := unqueried_alike definition (claimLeaseMs id) system.clock
        (system.runners id).recovering system.store abreast.phases queried
      simp only [postgresStep, queried]
      rw [step_proceed alive, mirrors.clock, abreast.recovering]
      refine .inl ⟨rfl, { formed, clock := mirrors.clock, timers := ?_, rows := ?_, runners := ?_ }⟩
      · simp only [timer, mirrors.timers]
      · simp only [store, table]
        exact mirrors.rows
      · exact follows_update mirrors.runners id
          (wider _ _ ⟨abreast.recovering, alive.trans stopped.symm, alike⟩)
    | some result =>
      obtain ⟨timer, turned⟩ := query_turned (claimLeaseMs id) (system.runners id).recovering
        (mirrors.formed.sound id) mirrors.rows abreast.phases queried
      rcases turned with ⟨⟨message, answered⟩, refused⟩ | ⟨rows, alike⟩
      · exact .inr ⟨⟨message, congrArg some answered⟩, refused⟩
      · rw [postgresStep_query alive queried]
        refine .inl ⟨rfl, { formed, clock := mirrors.clock, timers := ?_, rows, runners := ?_ }⟩
        · simp only [timer, Option.toList_none, List.append_nil]
          exact mirrors.timers
        · exact follows_update mirrors.runners id
            (wider _ _ ⟨abreast.recovering, alive.trans stopped.symm, alike⟩)

end Abreast

def Simulated (postgres : Postgres Context) (definition : SagaDefinition) (claimLeaseMs : Nat → Nat)
    (system : System Context) (turn : Option SagaEvent × System Context) : Prop :=
  ∃ inputs,
    Mirrors postgres definition (Follows postgres) (Run.final (step definition claimLeaseMs) system inputs) turn.2 ∧
    published Option.toList (Run.history (step definition claimLeaseMs) system inputs) = turn.1.toList.reverse

theorem Simulated.none (mirrors : Mirrors postgres definition (Follows postgres) system next) :
    Simulated postgres definition claimLeaseMs system (.none, next) :=
  ⟨[], mirrors, rfl⟩

theorem Together.simulated {input : PostgresInput Context}
    (together : Together postgres definition claimLeaseMs (Follows postgres) system other input) :
    Simulated postgres definition claimLeaseMs system
      (postgresStep postgres definition claimLeaseMs other input) := by
  refine ⟨[input.plain.converted postgres], together.2, ?_⟩
  simp only [published, Run.history, Run.observe, Run.final, List.flatMap_cons, List.flatMap_nil,
    List.append_nil, together.1]

theorem crash_mirrors (claimLeaseMs : Nat → Nat)
    (mirrors : Mirrors postgres definition (Follows postgres) system other) (id : Nat)
    {phase : Phase Context} (ended : Broken phase) :
    Mirrors postgres definition (Follows postgres) (step definition claimLeaseMs system (.crash id)).2
      (other.withRunner id { other.runners id with phase }) :=
  mirrors.elsewhere (formed_step claimLeaseMs mirrors.formed _) rfl rfl mirrors.clock mirrors.timers
    (follows_update mirrors.runners id (.broken rfl ended))

theorem crash_simulated (mirrors : Mirrors postgres definition (Follows postgres) system other) (id : Nat)
    {phase : Phase Context} (ended : Broken phase) :
    Simulated postgres definition claimLeaseMs system
      (.none, other.withRunner id { other.runners id with phase }) :=
  ⟨[.crash id], crash_mirrors claimLeaseMs mirrors id ended, rfl⟩

theorem failed_simulated (mirrors : Mirrors postgres definition (Follows postgres) system other) (id now : Nat)
    (message : String) (effective : Bool) (abreast : Abreast postgres (system.runners id) (other.runners id))
    (alive : (other.runners id).crashed = false)
    {result : Except String (Option (SagaRecord Context)) × SagaStore Context}
    (queried : (other.runners id).phase.query postgres other.store now = some result) :
    Simulated postgres definition claimLeaseMs system
      (postgresStep postgres definition claimLeaseMs other (.proceed id now (.lost message effective))) := by
  have broken : Broken ((other.runners id).phase.received definition (.error message)) :=
    received_broken queried message
  rw [postgresStep_query alive queried]
  cases effective with
  | false => exact crash_simulated mirrors id broken
  | true =>
    rcases proceed_together (fun _ _ => .abreast) mirrors id now abreast with
      ⟨_, ran⟩ | ⟨⟨reason, refused⟩, _⟩
    · rw [postgresStep_query alive queried] at ran
      have crashed := crash_mirrors claimLeaseMs ran id broken
      simp only [System.withRunner, Function.update_self, Function.update_idem] at crashed
      refine ⟨[.crash id, .proceed id], crashed, ?_⟩
      have silent : (step definition claimLeaseMs system (.proceed id)).1 = .none := by
        rw [step_proceed (abreast.crashed.symm.trans alive)]
      simp only [published, Run.history, Run.observe, Run.final, List.flatMap_cons, List.flatMap_nil, silent]
      rfl
    · cases queried.symm.trans refused
      exact crash_simulated mirrors id broken

theorem broken_simulated (mirrors : Mirrors postgres definition (Follows postgres) system other) (id now : Nat)
    (reply : Reply) (crashed : (system.runners id).crashed = true) (ended : Broken (other.runners id).phase) :
    Simulated postgres definition claimLeaseMs system
      (postgresStep postgres definition claimLeaseMs other (.proceed id now reply)) := by
  cases stopped : (other.runners id).crashed with
  | true =>
    rw [postgresStep_crashed stopped]
    exact .none mirrors
  | false =>
    have stays : Broken (proceed definition (claimLeaseMs id) other.clock (other.runners id).recovering
        other.store (other.runners id).phase).2.1 ∧
        (proceed definition (claimLeaseMs id) other.clock (other.runners id).recovering other.store
          (other.runners id).phase).2.2 = none ∧
        (proceed definition (claimLeaseMs id) other.clock (other.runners id).recovering other.store
          (other.runners id).phase).1 = other.store ∧
        (other.runners id).phase.query postgres other.store now = none := by
      generalize (other.runners id).phase = phase at ended ⊢
      cases ended with
      | threw message =>
        cases (other.runners id).recovering with
        | false => exact ⟨.threw message, rfl, rfl, rfl⟩
        | true => exact ⟨.recovered, rfl, rfl, rfl⟩
      | recovered => exact ⟨.recovered, rfl, rfl, rfl⟩
    obtain ⟨ended', timer, table, unqueried⟩ := stays
    simp only [postgresStep, unqueried]
    rw [step_proceed stopped]
    refine .none (mirrors.elsewhere mirrors.formed rfl table mirrors.clock ?_
      (follows_over mirrors.runners id (.broken crashed ended')))
    simp only [timer, Option.toList_none, List.append_nil]
    exact mirrors.timers

/-- Whatever becomes of a query, the coordinator over the memory can follow: where one has failed, it crashes. -/
theorem postgresStep_simulated (mirrors : Mirrors postgres definition (Follows postgres) system other)
    (input : PostgresInput Context) :
    Simulated postgres definition claimLeaseMs system
      (postgresStep postgres definition claimLeaseMs other input) := by
  cases input with
  | tick elapsedMs => exact (tick_together mirrors elapsedMs).simulated
  | start id call =>
    cases mirrors.runners id with
    | abreast abreast => exact (start_together (fun _ _ => .abreast) mirrors id call abreast).simulated
    | broken crashed ended =>
      simp only [postgresStep, PostgresInput.plain, step, ended.busy]
      exact .none mirrors
  | fire id timer =>
    cases mirrors.runners id with
    | abreast abreast => exact (fire_together (fun _ _ => .abreast) mirrors id timer abreast).simulated
    | broken crashed ended =>
      have idle : postgresStep postgres definition claimLeaseMs other (.fire id timer) = (none, other) := by
        simp only [postgresStep, PostgresInput.plain, step, ended.busy]
        split <;> simp
      rw [idle]
      exact .none mirrors
  | proceed id now reply =>
    cases mirrors.runners id with
    | abreast abreast =>
      cases stopped : (other.runners id).crashed with
      | true =>
        rw [postgresStep_crashed stopped]
        exact .none mirrors
      | false =>
        cases queried : (other.runners id).phase.query postgres other.store now with
        | none =>
          rcases proceed_together (fun _ _ => .abreast) mirrors id now abreast with
            (together : Together postgres definition claimLeaseMs _ _ _ _) | ⟨⟨message, refused⟩, _⟩
          · have same : postgresStep postgres definition claimLeaseMs other (.proceed id now reply) =
                postgresStep postgres definition claimLeaseMs other (.proceed id now .answered) := by
              simp only [postgresStep, queried]
            rw [same]
            exact together.simulated
          · cases queried.symm.trans refused
        | some result =>
          cases reply with
          | lost message effective =>
            exact failed_simulated mirrors id now message effective abreast stopped queried
          | answered =>
            rcases proceed_together (fun _ _ => .abreast) mirrors id now abreast with
              together | ⟨⟨message, refused⟩, _⟩
            · exact together.simulated
            · rw [postgresStep_query stopped refused]
              exact crash_simulated mirrors id (received_broken refused message)
    | broken crashed ended => exact broken_simulated mirrors id now reply crashed ended
  | settle id outcome =>
    cases mirrors.runners id with
    | abreast abreast => exact (settle_together (fun _ _ => .abreast) mirrors id outcome abreast).simulated
    | broken crashed ended =>
      have idle : postgresStep postgres definition claimLeaseMs other (.settle id outcome) = (none, other) := by
        simp only [postgresStep, PostgresInput.plain, step]
        generalize (other.runners id).phase = phase at ended ⊢
        cases ended with
        | threw message => simp [settle]
        | recovered => simp [settle]
      rw [idle]
      exact .none mirrors
  | crash id =>
    refine (crash_together mirrors id ?_).simulated
    cases mirrors.runners id with
    | abreast abreast => exact .abreast abreast.crash
    | broken _ ended => exact .broken rfl ended

-- Every query is answered; the database's clock need not be the runner's.
def Input.answered : Input Context → PostgresInput Context
  | .tick elapsedMs => .tick elapsedMs
  | .start id call => .start id call
  | .fire id timer => .fire id timer
  | .proceed id => .proceed id 0 .answered
  | .settle id outcome => .settle id outcome
  | .crash id => .crash id

theorem answered_together (mirrors : Mirrors postgres definition (Abreast postgres) system other)
    (input : Input Context) (before : Fits postgres system)
    (after : Fits postgres (step definition claimLeaseMs system input).2) :
    Together postgres definition claimLeaseMs (Abreast postgres) system other input.answered := by
  cases input with
  | tick elapsedMs => exact tick_together mirrors elapsedMs
  | start id call => exact start_together (fun _ _ same => same) mirrors id call (mirrors.runners id)
  | fire id timer => exact fire_together (fun _ _ same => same) mirrors id timer (mirrors.runners id)
  | proceed id =>
    rcases proceed_together (fun _ _ same => same) mirrors id 0 (mirrors.runners id) with together | ⟨_, refused⟩
    · exact together
    · rcases refused with ⟨sagaId, asks, taken⟩ | ⟨sagaId, record, found, unfit⟩
      · exact absurd (before.ids id sagaId asks) taken
      · exact absurd (after.rows sagaId record found) unfit
  | settle id outcome => exact settle_together (fun _ _ same => same) mirrors id outcome (mirrors.runners id)
  | crash id => exact crash_together mirrors id (mirrors.runners id).crash

theorem answered_mirrors {clock : Nat} (inputs : List (Input Context))
    (kept : ∀ input ∈ inputs, input.converted postgres = input)
    (fits : ∀ older, older <:+ inputs → Fits postgres (final definition claimLeaseMs clock older)) :
    Mirrors postgres definition (Abreast postgres) (final definition claimLeaseMs clock inputs)
      (Run.final (postgresStep postgres definition claimLeaseMs) (.initial clock) (inputs.map Input.answered)) ∧
    published Option.toList (history definition claimLeaseMs clock inputs) =
      published Option.toList
        (Run.history (postgresStep postgres definition claimLeaseMs) (.initial clock)
          (inputs.map Input.answered)) := by
  induction inputs with
  | nil => exact ⟨initial_mirrors definition clock ⟨rfl, rfl, .idle⟩, rfl⟩
  | cons input earlier ih =>
    obtain ⟨mirrors, told⟩ := ih (fun input member => kept input (List.mem_cons_of_mem _ member))
      fun older within => fits older (within.trans (List.suffix_cons ..))
    have stays := kept input List.mem_cons_self
    have before := fits earlier (List.suffix_cons ..)
    obtain ⟨event, after⟩ := answered_together mirrors input before (fits _ List.suffix_rfl)
    have plain : input.answered.plain = input := by
      cases input <;> rfl
    rw [plain, stays] at event after
    refine ⟨after, ?_⟩
    simp only [history, List.map_cons, Run.history, Run.observe, published, List.flatMap_cons] at told ⊢
    exact congrArg₂ _ (congrArg (fun event => event.toList.reverse) event) told

end Simulation

end Delego.Saga
