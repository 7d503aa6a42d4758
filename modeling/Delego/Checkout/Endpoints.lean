import Delego.Checkout.Saga
import Delego.Http.Services
import Delego.Saga.Answers

set_option autoImplicit false

namespace Delego.Checkout

open Shared Saga

structure SagaView where
  sagaId : String
  orderId : String
  status : SagaStatus
  completedSteps : List String
  deriving DecidableEq

def viewOf (record : SagaRecord CheckoutContext) : SagaView :=
  ⟨record.sagaId, record.orderId, record.status, record.completedSteps⟩

structure ApiReply where
  status : Nat
  data : Option SagaView
  error : Option (String × String)
  deriving DecidableEq

structure CheckoutWorkflowInput where
  orderId : String
  sourceAddress : String
  buyerAddress : String
  sellerAddress : String

def checkoutInput (body : List (String × Json)) : Option CheckoutWorkflowInput :=
  match body.lookup "orderId", body.lookup "sourceAddress", body.lookup "buyerAddress",
    body.lookup "sellerAddress" with
  | some (.string orderId), some (.string sourceAddress), some (.string buyerAddress),
    some (.string sellerAddress) => some ⟨orderId, sourceAddress, buyerAddress, sellerAddress⟩
  | _, _, _, _ => none

def validationError (message : String) : ApiReply := ⟨400, none, some ("VALIDATION_ERROR", message)⟩

def checkoutSagaId (orderId : String) : String := "checkout:" ++ orderId

def checkoutReply : Except String (SagaRecord CheckoutContext) → ApiReply
  | .ok result =>
    if result.status = .completed then ⟨200, some (viewOf result), none⟩
    else
      ⟨502, some (viewOf result),
        some ("CHECKOUT_SAGA_FAILED", result.error.getD "Checkout saga failed")⟩
  | .error message => ⟨502, none, some ("CHECKOUT_SAGA_FAILED", message)⟩

def sagaReply (sagaId : String) : Option (SagaRecord CheckoutContext) → ApiReply
  | some record => ⟨200, some (viewOf record), none⟩
  | none => ⟨404, none, some ("NOT_FOUND", "Saga not found: " ++ sagaId)⟩

def resumeReply : Except String (SagaRecord CheckoutContext) → ApiReply
  | .ok result => ⟨200, some (viewOf result), none⟩
  | .error message =>
    if "Saga not found".toList.isPrefixOf message.toList then ⟨404, none, some ("NOT_FOUND", message)⟩
    else ⟨502, none, some ("SAGA_RESUME_FAILED", message)⟩

inductive Awaited where
  | checkout (orderId : String)
  | resume (sagaId : String)
  deriving DecidableEq

def Awaited.reply : Awaited → Except String (SagaRecord CheckoutContext) → ApiReply
  | .checkout _ => checkoutReply
  | .resume _ => resumeReply

-- The process has a server without routes from the time its module is loaded. The one of `main` listens on the
-- same port later, and unless the system chooses the ports, that ends the process.
inductive Servers where
  | loaded
  | listening
  | ended
  deriving DecidableEq

inductive Door where
  | loaded
  | main
  deriving DecidableEq

def Door.routes : Door → List (Http.Route Http.Endpoint)
  | .loaded => Http.routes .orchestrator
  | .main => Http.routes .orchestratorMain

def Servers.answers : Servers → Door → Bool
  | .loaded, .loaded | .listening, _ => true
  | _, _ => false

structure Orchestrator where
  servers : Servers
  sagas : Saga.System CheckoutContext
  asked : Nat → Option Awaited

-- A request as a server takes it: the body is the object it has been read as, or why it has not been.
structure Request where
  door : Door
  method : String
  target : String
  rooted : UrlPath.rooted target = true
  body : Except String (List (String × Json))

inductive ServerInput where
  -- `main` has connected to the database and recovered, and starts its server.
  | listen
  | receive (runner : Nat) (request : Request)
  | answer (runner : Nat)
  | recover (runner : Nat) (sagaId : String)
  | turn (input : Saga.Input CheckoutContext) (underway : input.starts = false)

inductive ServerOutput where
  | reply (reply : ApiReply)
  | healthy
  | notFound (message : String)
  deriving DecidableEq

namespace Orchestrator

def start (clock : Nat) : Orchestrator := ⟨.loaded, .initial clock, fun _ => none⟩

variable (port : Nat) (claimLeaseMs : Nat → Nat) (server : Orchestrator)

-- Two servers cannot listen on one port; the error of the second is handled by nobody.
def listen : Orchestrator :=
  match server.servers with
  | .loaded => { server with servers := if port = 0 then .listening else .ended }
  | _ => server

-- A call of the coordinator, by a runner that has not been used yet.
def call (id : Nat) (asked : Awaited) (sagaCall : SagaCall CheckoutContext) :
    Option ServerOutput × Orchestrator :=
  if (server.sagas.runners id).phase.isIdle then
    (none, { server with
      sagas := (Saga.step checkoutSaga claimLeaseMs server.sagas (.start id sagaCall)).2
      asked := Function.update server.asked id (some asked) })
  else (none, server)

def handle (id : Nat) (params : Http.Params) (body : Except String (List (String × Json))) :
    Http.Endpoint → Option ServerOutput × Orchestrator
  | .checkout =>
    match body with
    | .error message => (some (.reply (validationError message)), server)
    | .ok fields =>
      match checkoutInput fields with
      | none =>
        (some (.reply (validationError
          "orderId, sourceAddress, buyerAddress and sellerAddress are required")), server)
      | some input =>
        server.call claimLeaseMs id (.checkout input.orderId)
          (checkoutWorkflow input.orderId input.sourceAddress input.buyerAddress input.sellerAddress
            (checkoutSagaId input.orderId))
  | .getSaga =>
    let sagaId := (params.lookup "sagaId").getD ""
    (some (.reply (sagaReply sagaId (server.sagas.store.get sagaId))), server)
  | .resumeSaga =>
    let sagaId := (params.lookup "sagaId").getD ""
    server.call claimLeaseMs id (.resume sagaId) (.resume sagaId)
  | _ => (none, server)

def receive (id : Nat) (request : Request) : Option ServerOutput × Orchestrator :=
  if server.servers.answers request.door then
    match Http.dispatch request.door.routes request.method (UrlPath.pathname request.target) with
    | .handled route params => server.handle claimLeaseMs id params request.body route.handler
    | .health => (some .healthy, server)
    | .notFound message => (some (.notFound message), server)
  else (none, server)

def answer (id : Nat) : Option ServerOutput × Orchestrator :=
  let runner := server.sagas.runners id
  match server.asked id, runner.phase with
  | some asked, .settled result =>
    if runner.crashed ∨ runner.recovering then (none, server)
    else (some (.reply (asked.reply result)), { server with asked := Function.update server.asked id none })
  | _, _ => (none, server)

def act : ServerInput → Option ServerOutput × Orchestrator
  | .listen => (none, server.listen port)
  | .receive id request => server.receive claimLeaseMs id request
  | .answer id => server.answer id
  | .recover id sagaId =>
    (none, { server with
      sagas := (Saga.step checkoutSaga claimLeaseMs server.sagas (.start id (.recoverOne sagaId))).2 })
  | .turn input _ =>
    (none, { server with sagas := (Saga.step checkoutSaga claimLeaseMs server.sagas input).2 })

-- Nothing goes on in a process that has ended.
def step (input : ServerInput) : Option ServerOutput × Orchestrator :=
  if server.servers = .ended then (none, server) else server.act port claimLeaseMs input

def final (clock : Nat) (inputs : List ServerInput) : Orchestrator :=
  Run.final (step port claimLeaseMs) (start clock) inputs

abbrev ServerReceipt := Receipt Orchestrator ServerInput (Option ServerOutput)

def history (clock : Nat) (inputs : List ServerInput) : List ServerReceipt :=
  Run.history (step port claimLeaseMs) (start clock) inputs

end Orchestrator

section Replies

open Orchestrator

def kept (sagaId orderId : String) : Prop := sagaId = checkoutSagaId orderId

-- The sagas that a call may come to, with their orders.
def Awaited.claim : Option Awaited → String → String → Prop
  | some (.checkout orderId), sagaId, other => sagaId = checkoutSagaId orderId ∧ other = orderId
  | some (.resume named), sagaId, other => sagaId = named ∧ kept sagaId other
  | none, sagaId, other => kept sagaId other

theorem checkoutSagaId_inj {orderId other : String} (same : checkoutSagaId orderId = checkoutSagaId other) :
    orderId = other := by
  unfold checkoutSagaId at same
  exact (String.append_right_inj _).mp same

theorem claim_naming (asked : Option Awaited) : Naming kept (Awaited.claim asked) := by
  constructor
  case stored =>
    intro sagaId orderId named
    cases asked with
    | none => exact named
    | some asked =>
      cases asked with
      | checkout own =>
        obtain ⟨same, order⟩ := named
        subst order
        exact same
      | resume own => exact named.2
  case unique =>
    intro sagaId orderId other named stored
    cases asked with
    | none => exact stored
    | some asked =>
      cases asked with
      | checkout own =>
        obtain ⟨same, order⟩ := named
        exact ⟨same, checkoutSagaId_inj (stored.symm.trans same)⟩
      | resume own => exact ⟨named.1, stored⟩

structure Sane (server : Orchestrator) : Prop where
  formed : Formed checkoutSaga server.sagas
  keeps : server.sagas.store.Keeps kept
  hold : server.sagas.Hold kept fun id => Awaited.claim (server.asked id)
  tell : server.sagas.Tell

variable {port : Nat} {claimLeaseMs : Nat → Nat} {clock : Nat} {server : Orchestrator} {id : Nat}

theorem start_sane (clock : Nat) : Sane (start clock) where
  formed := initial_formed checkoutSaga clock
  keeps := nofun
  hold _ := trivial
  tell _ := trivial

theorem turn_sane (sane : Sane server) (input : Saga.Input CheckoutContext) (underway : input.starts = false) :
    Sane { server with sagas := (Saga.step checkoutSaga claimLeaseMs server.sagas input).2 } := by
  have naming (id : Nat) : Naming kept (Awaited.claim (server.asked id)) := claim_naming (server.asked id)
  exact
    { formed := (step_systemStep claimLeaseMs sane.formed input).formed sane.formed
      keeps := (step_hold naming claimLeaseMs sane.keeps sane.hold input underway).2
      hold := (step_hold naming claimLeaseMs sane.keeps sane.hold input underway).1
      tell := step_tell claimLeaseMs sane.formed sane.tell input }

theorem start_step (system : Saga.System CheckoutContext) (sagaCall : SagaCall CheckoutContext)
    (idle : (system.runners id).phase.isIdle = true) :
    (Saga.step checkoutSaga claimLeaseMs system (.start id sagaCall)).2 =
      system.withRunner id (begin checkoutSaga system.clock sagaCall) := by
  simp [Saga.step, idle]

theorem begin_sane {asked : Nat → Option Awaited} {sagaCall : SagaCall CheckoutContext} (sane : Sane server)
    (idle : (server.sagas.runners id).phase.isIdle = true)
    (own : (begin checkoutSaga server.sagas.clock sagaCall).Holds kept (Awaited.claim (asked id)))
    (others : ∀ other, other ≠ id → asked other = server.asked other) :
    Sane { server with
      sagas := (Saga.step checkoutSaga claimLeaseMs server.sagas (.start id sagaCall)).2
      asked } where
  formed := (step_systemStep claimLeaseMs sane.formed _).formed sane.formed
  keeps := by
    rw [start_step _ _ idle]
    exact sane.keeps
  hold := by
    rw [start_step _ _ idle]
    intro other
    by_cases same : other = id
    · subst same
      simpa [System.withRunner] using own
    · simpa [System.withRunner, same, others] using sane.hold other
  tell := step_tell claimLeaseMs sane.formed sane.tell _

theorem call_sane {asked : Awaited} {sagaCall : SagaCall CheckoutContext} (sane : Sane server)
    (own : (begin checkoutSaga server.sagas.clock sagaCall).Holds kept (Awaited.claim (some asked))) :
    Sane (server.call claimLeaseMs id asked sagaCall).2 := by
  unfold call
  split
  · next idle =>
    refine begin_sane sane idle ?_ ?_
    · simpa using own
    · intro other different
      exact Function.update_of_ne different ..
  · exact sane

theorem handle_sane (sane : Sane server) (params : Http.Params) (body : Except String (List (String × Json)))
    (endpoint : Http.Endpoint) : Sane (server.handle claimLeaseMs id params body endpoint).2 := by
  cases endpoint with
  | checkout =>
    cases body with
    | error message => exact sane
    | ok fields =>
      cases input : checkoutInput fields with
      | none => simpa only [handle, input] using sane
      | some given =>
        simp only [handle, input]
        exact call_sane sane ⟨rfl, rfl⟩
  | resumeSaga => exact call_sane sane fun _ named => ⟨rfl, named⟩
  | _ => exact sane

theorem answer_cases (server : Orchestrator) (id : Nat) :
    (∃ asked result, server.asked id = some asked ∧ (server.sagas.runners id).phase = .settled result ∧
      (server.sagas.runners id).recovering = false ∧
      server.answer id = (some (.reply (asked.reply result)),
        { server with asked := Function.update server.asked id none })) ∨
    server.answer id = (none, server) := by
  unfold answer
  cases asked : server.asked id with
  | none => exact .inr rfl
  | some asked =>
    cases phase : (server.sagas.runners id).phase with
    | settled result =>
      by_cases unheard : (server.sagas.runners id).crashed = true ∨ (server.sagas.runners id).recovering = true
      · simp [phase, unheard]
      · have called : (server.sagas.runners id).recovering = false := by
          simpa using (not_or.mp unheard).2
        have heard : (server.sagas.runners id).crashed = false := by
          simpa using (not_or.mp unheard).1
        simp [phase, called, heard]
    | _ => simp [phase]

theorem answer_sane (sane : Sane server) (id : Nat) : Sane (server.answer id).2 := by
  rcases answer_cases server id with ⟨asked, result, own, phase, called, answered⟩ | ignored
  · rw [answered]
    refine { formed := sane.formed, keeps := sane.keeps, tell := sane.tell, hold := ?_ }
    intro other
    by_cases same : other = id
    · subst same
      have named := sane.hold other
      cases result with
      | error message => simp [Runner.Holds, phase, Phase.Concerns]
      | ok record =>
        simp only [Runner.Holds, phase, called, Bool.false_eq_true, if_false, Phase.Concerns] at named
        simp only [Runner.Holds, phase, called, Bool.false_eq_true, if_false, Phase.Concerns,
          Function.update_self]
        exact (claim_naming _).stored _ _ named
    · simpa [same] using sane.hold other
  · rw [ignored]
    exact sane

theorem act_sane (sane : Sane server) (input : ServerInput) :
    Sane (server.act port claimLeaseMs input).2 := by
  cases input with
  | listen =>
    simp only [act, Orchestrator.listen]
    split <;> exact { formed := sane.formed, keeps := sane.keeps, hold := sane.hold, tell := sane.tell }
  | receive id request =>
    simp only [act, receive]
    split
    · split
      · exact handle_sane sane _ _ _
      · exact sane
      · exact sane
    · exact sane
  | answer id => exact answer_sane sane id
  | recover id sagaId =>
    simp only [act]
    by_cases idle : (server.sagas.runners id).phase.isIdle = true
    · exact begin_sane sane idle (recovery_holds _ _) fun _ _ => rfl
    · have ignored : (Saga.step checkoutSaga claimLeaseMs server.sagas (.start id (.recoverOne sagaId))).2 =
          server.sagas := by
        simp [Saga.step, idle]
      rw [ignored]
      exact sane
  | turn input underway => exact turn_sane sane input underway

theorem step_sane (sane : Sane server) (input : ServerInput) :
    Sane (server.step port claimLeaseMs input).2 := by
  unfold Orchestrator.step
  split
  · exact sane
  · exact act_sane sane input

theorem final_sane (port : Nat) (claimLeaseMs : Nat → Nat) (clock : Nat) (inputs : List ServerInput) :
    Sane (Orchestrator.final port claimLeaseMs clock inputs) := by
  induction inputs with
  | nil => exact start_sane clock
  | cons input earlier ih => exact step_sane ih input

end Replies

section Finished

open Orchestrator

def Awaited.sagaId : Awaited → String
  | .checkout orderId => checkoutSagaId orderId
  | .resume sagaId => sagaId

def Request.Reaches (request : Request) (endpoint : Http.Endpoint) (sagaId : String) : Prop :=
  ∃ route params,
    Http.dispatch request.door.routes request.method (UrlPath.pathname request.target) =
      .handled route params ∧ route.handler = endpoint ∧ params.lookup "sagaId" = some sagaId

/-- What is replied about a saga that has finished with a record: whoever looks it up is shown the record,
and a request that runs or resumes it, by a runner that was free, is answered with it. -/
structure Repeats (record : SagaRecord CheckoutContext) (free : Nat → Prop) (receipt : ServerReceipt) :
    Prop where
  lookup : ∀ id request, receipt.input = .receive id request → request.Reaches .getSaga record.sagaId →
    ∀ output, receipt.output = some output → output = .reply ⟨200, some (viewOf record), none⟩
  answer : ∀ id asked reply, free id → receipt.input = .answer id → receipt.before.asked id = some asked →
    asked.sagaId = record.sagaId → receipt.output = some (.reply reply) → reply = asked.reply (.ok record)

def Orchestrator.free (server : Orchestrator) (id : Nat) : Prop :=
  (server.sagas.runners id).phase.isIdle = true

variable {port : Nat} {claimLeaseMs : Nat → Nat} {clock : Nat} {server : Orchestrator} {id : Nat}
  {record : SagaRecord CheckoutContext} {asked : Awaited} {reply : ApiReply}

theorem Sane.tells (sane : Sane server) (phase : (server.sagas.runners id).phase = .settled (.ok record))
    (finished : record.status.terminal = true) : server.sagas.store record.sagaId = some record := by
  have told := sane.tell id
  rw [phase] at told
  exact told finished

theorem answer_reply (replied : (server.answer id).1 = some (.reply reply))
    (own : server.asked id = some asked) :
    ∃ result, (server.sagas.runners id).phase = .settled result ∧
      (server.sagas.runners id).recovering = false ∧ reply = asked.reply result := by
  rcases answer_cases server id with ⟨asked', result, own', phase, called, answered⟩ | ignored
  · cases own.symm.trans own'
    rw [answered] at replied
    cases replied
    exact ⟨result, phase, called, rfl⟩
  · rw [ignored] at replied
    cases replied

structure Closed (record : SagaRecord CheckoutContext) (free : Nat → Prop) (server : Orchestrator) : Prop where
  sane : Sane server
  found : server.sagas.store record.sagaId = some record
  finished : record.status.terminal = true
  closes : ∀ id, free id → ∀ asked, server.asked id = some asked → asked.sagaId = record.sagaId →
    (server.sagas.runners id).Closes record

theorem idle_closes {runner : Runner CheckoutContext} (idle : runner.phase.isIdle = true) :
    runner.Closes record := by
  intro called
  cases phase : runner.phase with
  | idle => trivial
  | _ => simp [phase, Phase.isIdle] at idle

variable {free : Nat → Prop}

theorem turn_closed (closed : Closed record free server) (input : Saga.Input CheckoutContext)
    (underway : input.starts = false) :
    Closed record free
      { server with sagas := (Saga.step checkoutSaga claimLeaseMs server.sagas input).2 } where
  sane := turn_sane closed.sane input underway
  found := step_finished claimLeaseMs closed.sane.formed closed.found closed.finished input
  finished := closed.finished
  closes id among asked own same :=
    step_closes claimLeaseMs closed.found closed.finished input underway (closed.closes id among asked own same)

theorem begin_closed {asked : Nat → Option Awaited} {sagaCall : SagaCall CheckoutContext}
    (closed : Closed record free server) (idle : (server.sagas.runners id).phase.isIdle = true)
    (sane : Sane { server with
      sagas := (Saga.step checkoutSaga claimLeaseMs server.sagas (.start id sagaCall)).2
      asked })
    (own : ∀ made, asked id = some made → made.sagaId = record.sagaId →
      (begin checkoutSaga server.sagas.clock sagaCall).Closes record)
    (others : ∀ other, other ≠ id → asked other = server.asked other) :
    Closed record free { server with
      sagas := (Saga.step checkoutSaga claimLeaseMs server.sagas (.start id sagaCall)).2
      asked } where
  sane
  found := step_finished claimLeaseMs closed.sane.formed closed.found closed.finished _
  finished := closed.finished
  closes other among made asks same := by
    rw [start_step _ _ idle]
    by_cases here : other = id
    · subst here
      simpa [System.withRunner] using own made asks same
    · have asked' : server.asked other = some made := (others other here).symm.trans asks
      simpa [System.withRunner, here] using closed.closes other among made asked' same

theorem call_closed {sagaCall : SagaCall CheckoutContext} (closed : Closed record free server)
    (sane : Sane (server.call claimLeaseMs id asked sagaCall).2)
    (own : asked.sagaId = record.sagaId → (begin checkoutSaga server.sagas.clock sagaCall).Closes record) :
    Closed record free (server.call claimLeaseMs id asked sagaCall).2 := by
  unfold call at sane ⊢
  split
  · next idle =>
    rw [if_pos idle] at sane
    refine begin_closed closed idle sane ?_ ?_
    · intro made asks
      rw [Function.update_self] at asks
      cases asks
      exact own
    · intro other different
      exact Function.update_of_ne different ..
  · exact closed

theorem step_output {input : ServerInput} {output : ServerOutput}
    (told : (server.step port claimLeaseMs input).1 = some output) :
    server.servers ≠ .ended ∧ (server.act port claimLeaseMs input).1 = some output := by
  unfold Orchestrator.step at told
  split at told
  · cases told
  · next running => exact ⟨running, told⟩

theorem receive_closed (closed : Closed record free server) (request : Request)
    (sane : Sane (server.receive claimLeaseMs id request).2) :
    Closed record free (server.receive claimLeaseMs id request).2 := by
  unfold receive at sane ⊢
  split
  · next answers =>
    rw [if_pos answers] at sane
    cases dispatched : Http.dispatch request.door.routes request.method
        (UrlPath.pathname request.target) with
    | health | notFound => exact closed
    | handled route params =>
      simp only [dispatched] at sane ⊢
      cases endpoint : route.handler with
      | checkout =>
        rw [endpoint] at sane
        cases body : request.body with
        | error message => exact closed
        | ok fields =>
          rw [body] at sane
          cases input : checkoutInput fields with
          | none => simpa only [handle, input] using closed
          | some given =>
            simp only [handle, input] at sane ⊢
            exact call_closed closed sane fun same _ => same
      | resumeSaga =>
        rw [endpoint] at sane
        exact call_closed closed sane fun same _ => same
      | _ => exact closed
  · exact closed

theorem act_closed (closed : Closed record free server) (input : ServerInput) :
    Closed record free (server.act port claimLeaseMs input).2 := by
  have sane : Sane (server.act port claimLeaseMs input).2 := act_sane closed.sane input
  cases input with
  | listen =>
    simp only [act, Orchestrator.listen] at sane ⊢
    split at sane
    all_goals exact { sane, found := closed.found, finished := closed.finished, closes := closed.closes }
  | receive id request => exact receive_closed closed request sane
  | answer id =>
    simp only [act] at sane ⊢
    rcases answer_cases server id with ⟨_, _, _, _, _, answered⟩ | ignored
    · rw [answered] at sane ⊢
      refine { sane, found := closed.found, finished := closed.finished, closes := ?_ }
      intro other among made asks same
      by_cases here : other = id
      · subst here
        simp at asks
      · have asked' : server.asked other = some made := (Function.update_of_ne here ..).symm.trans asks
        exact closed.closes other among made asked' same
    · rw [ignored]
      exact closed
  | recover id sagaId =>
    simp only [act] at sane ⊢
    by_cases idle : (server.sagas.runners id).phase.isIdle = true
    · exact begin_closed closed idle sane (fun _ _ _ => nofun) fun _ _ => rfl
    · have ignored : (Saga.step checkoutSaga claimLeaseMs server.sagas (.start id (.recoverOne sagaId))).2 =
          server.sagas := by
        simp [Saga.step, idle]
      rw [ignored]
      exact closed
  | turn input underway => exact turn_closed closed input underway

theorem step_answer (running : server.servers ≠ .ended) :
    server.step port claimLeaseMs (.answer id) = server.answer id := by
  simp [Orchestrator.step, running, act]

theorem step_closed (closed : Closed record free server) (input : ServerInput) :
    Closed record free (server.step port claimLeaseMs input).2 := by
  unfold Orchestrator.step
  split
  · exact closed
  · exact act_closed closed input

theorem observe_repeats (closed : Closed record free server) (input : ServerInput) :
    Repeats record free (Run.observe (Orchestrator.step port claimLeaseMs) server input) := by
  constructor
  case lookup =>
    intro id request same reaches output replied
    obtain ⟨route, params, dispatched, endpoint, asksFor⟩ := reaches
    have received : input = .receive id request := same
    subst received
    simp only [Run.observe] at replied
    have told := (step_output replied).2
    simp only [act, receive] at told
    split at told
    · simp [dispatched, handle, endpoint, asksFor, SagaStore.get, closed.found, sagaReply] at told
      exact told.symm
    · cases told
  case answer =>
    intro id asked reply among same own about replied
    have answered : input = .answer id := same
    subst answered
    obtain ⟨result, phase, called, replies⟩ := answer_reply (step_output replied).2 own
    have closes := closed.closes id among asked own about called
    rw [phase] at closes
    rw [replies, show result = .ok record from closes]

theorem run_repeats (closed : Closed record free server) (newer : List ServerInput) :
    ∀ later ∈ Run.history (Orchestrator.step port claimLeaseMs) server newer, Repeats record free later := by
  have run := Run.invariant (Orchestrator.step port claimLeaseMs) server
    (fun past state => Closed record free state ∧ ∀ later ∈ past, Repeats record free later)
    ⟨closed, List.forall_mem_nil _⟩
    (fun past state input sofar => ⟨step_closed sofar.1 input,
      List.forall_mem_cons.mpr ⟨observe_repeats sofar.1 input, sofar.2⟩⟩)
    newer
  exact run.2

def Confirms (orderId : String) (reply : ApiReply) : Prop :=
  (∀ view ∈ reply.data, view.sagaId = checkoutSagaId orderId ∧ view.orderId = orderId) ∧
    (reply = ⟨200, some ⟨checkoutSagaId orderId, orderId, .completed, checkoutSaga.stepOrder⟩, none⟩ ∨
      reply.status = 502 ∧ ∀ view ∈ reply.data, view.status ≠ .completed)

theorem checkout_confirms {orderId : String} (sane : Sane server)
    (replied : (server.answer id).1 = some (.reply reply))
    (own : server.asked id = some (.checkout orderId)) : Confirms orderId reply := by
  obtain ⟨result, phase, called, replies⟩ := answer_reply replied own
  rw [replies]
  cases result with
  | error message => exact ⟨nofun, .inr ⟨rfl, nofun⟩⟩
  | ok record =>
    have named := sane.hold id
    simp only [Runner.Holds, phase, called, Bool.false_eq_true, if_false, Phase.Concerns, own,
      SagaRecord.Named, Awaited.claim] at named
    by_cases completed : record.status = .completed
    · have found := sane.tells phase (by simp [completed, SagaStatus.terminal])
      have steps := (sane.formed.storeOk.ok _ _ found).all completed
      simp [Confirms, Awaited.reply, checkoutReply, completed, viewOf, named, steps]
    · simp [Confirms, Awaited.reply, checkoutReply, completed, viewOf, named]

structure Unserved (server : Orchestrator) : Prop where
  servers : server.servers ≠ .listening
  asked : ∀ id, server.asked id = none

theorem loaded_unhandled (method pathname : String) (route : Http.Route Http.Endpoint) (params : Http.Params) :
    Http.dispatch (Http.routes .orchestrator) method pathname ≠ .handled route params := by
  intro handled
  obtain ⟨member, _⟩ := (Http.dispatch_handled (Http.routes_unambiguous _)).mp handled
  cases member

theorem receive_unserved (claimLeaseMs : Nat → Nat) (unserved : Unserved server) (id : Nat)
    (request : Request) :
    (server.receive claimLeaseMs id request).2 = server ∧
      ∀ output, (server.receive claimLeaseMs id request).1 = some output →
        output = .healthy ∨ ∃ message, output = .notFound message := by
  unfold receive
  split
  · next answers =>
    have door : request.door = .loaded := by
      cases servers : server.servers <;> cases door : request.door <;>
        simp_all [Servers.answers, unserved.servers]
    rw [door]
    cases dispatched : Http.dispatch (Door.routes .loaded) request.method (UrlPath.pathname request.target) with
    | handled route params => exact absurd dispatched (loaded_unhandled _ _ route params)
    | health => exact ⟨rfl, by simp⟩
    | notFound message => exact ⟨rfl, by simp⟩
  · exact ⟨rfl, by simp⟩

theorem step_unserved (own : port ≠ 0) (unserved : Unserved server) (input : ServerInput) :
    Unserved (server.step port claimLeaseMs input).2 ∧
      ∀ output, (server.step port claimLeaseMs input).1 = some output →
        output = .healthy ∨ ∃ message, output = .notFound message := by
  unfold Orchestrator.step
  split
  · exact ⟨unserved, by simp⟩
  · cases input with
    | listen =>
      refine ⟨⟨?_, ?_⟩, by simp [act]⟩
      · cases servers : server.servers with
        | loaded => simp [act, Orchestrator.listen, servers, own]
        | listening => exact absurd servers unserved.servers
        | ended => simp [act, Orchestrator.listen, servers]
      · cases servers : server.servers <;> simp only [act, Orchestrator.listen, servers] <;> exact unserved.asked
    | receive id request =>
      obtain ⟨same, told⟩ := receive_unserved claimLeaseMs unserved id request
      simp only [act, same]
      exact ⟨unserved, told⟩
    | answer id =>
      have silent : server.answer id = (none, server) := by simp [answer, unserved.asked]
      simp only [act, silent]
      exact ⟨unserved, by simp⟩
    | recover id sagaId => exact ⟨⟨unserved.servers, unserved.asked⟩, by simp [act]⟩
    | turn input => exact ⟨⟨unserved.servers, unserved.asked⟩, by simp [act]⟩

theorem run_unserved (own : port ≠ 0) (claimLeaseMs : Nat → Nat) (clock : Nat) (inputs : List ServerInput) :
    Unserved (Orchestrator.final port claimLeaseMs clock inputs) ∧
      ∀ receipt ∈ Orchestrator.history port claimLeaseMs clock inputs, ∀ output,
        receipt.output = some output → output = .healthy ∨ ∃ message, output = .notFound message := by
  induction inputs with
  | nil => exact ⟨⟨nofun, fun _ => rfl⟩, List.forall_mem_nil _⟩
  | cons input earlier ih =>
    obtain ⟨unserved, told⟩ := ih
    obtain ⟨after, tells⟩ := step_unserved own unserved input
    exact ⟨after, List.forall_mem_cons.mpr ⟨tells, told⟩⟩

end Finished

end Delego.Checkout
