import Delego.Shared.Json
import Delego.Shared.Run

set_option autoImplicit false

namespace Delego.Notifications.WebSocket

open Shared

def heartbeatTimeout : Nat := 60000

structure PushNotificationEvent where
  topic : String
  type : String
  payload : List (String × Json)
  publishedAt : String

/-- A connection, which is in the map of connections as long as it is connected. Its topics are what
its client has named. -/
structure PushConnection where
  userId : String
  subscribedTopics : List Json
  connectedAt : Nat
  lastHeartbeatAt : Nat
  connected : Bool

inductive Outgoing where
  | pong
  | subscribed (topics : List Json)
  | unsubscribed (topics : List Json)
  | event (event : PushNotificationEvent)

/-- The connections by their numbers, which are their ids, and whether the process still runs. -/
structure System where
  connections : List PushConnection
  running : Bool

def System.initial : System := ⟨[], true⟩

-- Nobody catches what a callback throws: the process ends, and its connections with it.
def System.ended : System := ⟨[], false⟩

-- The data of a message is what the JSON parser makes of it.
inductive Input where
  | connect (token : Option String) (now : Nat)
  | message (id : Nat) (data : Option Json) (now : Nat)
  | timeout (id now : Nat)
  | close (id : Nat)
  | broadcast (event : PushNotificationEvent)

-- Two objects that were parsed apart are never the same.
def same : Json → Json → Bool
  | .null, .null => true
  | .bool value, .bool other => value = other
  | .number value, .number other => value = other
  | .string value, .string other => value = other
  | _, _ => false

-- The elements of a set in the order in which they came.
def distinct (items : List Json) : List Json :=
  items.foldl (fun known item => if known.any (same item) then known else known ++ [item]) []

def spread : Json → Except String (List Json)
  | .array items => .ok items
  | .string value => .ok (value.toList.map fun c => .string (String.singleton c))
  | .null | .bool _ | .number _ | .object _ => .error "topics is not iterable"

-- `message.topics || []`
def topicsOf (message : Json) : Except String Json := do
  let topics ← message.property "topics"
  .ok ((topics.filter Json.truthy).getD (.array []))

def typeOf (message : Json) : Except String String := do
  let type ← message.property "type"
  match type with
  | some (.string type) => .ok type
  | _ => .ok ""

section Handlers

-- How the language turns a value into a string, the claims of the token library, and the codes with which the
-- socket library closes a connection: it throws at any other.
variable (text : Json → String) (verifyJwt : String → Nat → Option String) (closes : Nat → Bool)

def includes (topics topic : Json) : Except String Bool :=
  match topics with
  | .array items => .ok (items.any (same topic))
  | .string value => .ok (Text.includes value (text topic))
  | .null | .bool _ | .number _ | .object _ => .error "topics.includes is not a function"

def remaining (topics : Json) : List Json → Except String (List Json)
  | [] => .ok []
  | topic :: rest => do
    let gone ← includes text topics topic
    let kept ← remaining topics rest
    .ok (if gone then kept else topic :: kept)

def handleMessage (connection : PushConnection) (message : Json) (now : Nat) :
    Except String (PushConnection × Option Outgoing) := do
  let type ← typeOf message
  if type = "ping" then .ok ({ connection with lastHeartbeatAt := now }, some .pong)
  else if type = "subscribe" then
    let items ← spread (← topicsOf message)
    let topics := distinct (connection.subscribedTopics ++ items)
    .ok ({ connection with subscribedTopics := topics }, some (.subscribed topics))
  else if type = "unsubscribe" then
    let topics ← remaining text (← topicsOf message) connection.subscribedTopics
    .ok ({ connection with subscribedTopics := topics }, some (.unsubscribed topics))
  else .ok (connection, none)

def handleConnection (token : Option String) (now : Nat) : Option PushConnection :=
  match Text.truthy token with
  | none => none
  | some token =>
    match verifyJwt token now with
    | none => none
    | some userId => some ⟨userId, [.string ("user:" ++ userId)], now, now, true⟩

def broadcastToTopic (connections : List PushConnection) (topic : String) (event : PushNotificationEvent) :
    List (Nat × Outgoing) :=
  (connections.zipIdx.filter fun (connection, _) =>
    connection.connected && connection.subscribedTopics.any (same (.string topic))).map
      fun (_, id) => (id, .event event)

/-- What the running service does, with the messages that it sends; nothing is left of it when it throws. -/
def act (connections : List PushConnection) : Input → Option (List (Nat × Outgoing) × List PushConnection)
  | .connect token now =>
    match handleConnection verifyJwt token now with
    | none => if closes 401 then some ([], connections) else none
    | some connection => some ([], connections ++ [connection])
  | .message id data now =>
    match connections[id]?, data with
    | some connection, some message =>
      match handleMessage text connection message now with
      | .ok (connection, some reply) => some ([(id, reply)], connections.set id connection)
      | .ok (connection, none) => some ([], connections.set id connection)
      -- What a message throws is caught.
      | .error _ => some ([], connections)
    | _, _ => some ([], connections)
  | .timeout id now =>
    match connections[id]? with
    | some connection =>
      if connection.lastHeartbeatAt + heartbeatTimeout ≤ now then
        if closes 408 then some ([], connections.set id { connection with connected := false }) else none
      else some ([], connections)
    | none => some ([], connections)
  | .close id =>
    match connections[id]? with
    | some connection => some ([], connections.set id { connection with connected := false })
    | none => some ([], connections)
  | .broadcast event => some (broadcastToTopic connections event.topic event, connections)

def step (system : System) (input : Input) : List (Nat × Outgoing) × System :=
  if system.running then
    match act text verifyJwt closes system.connections input with
    | some (sent, connections) => (sent, { system with connections })
    | none => ([], .ended)
  else ([], system)

def final (inputs : List Input) : System := Run.final (step text verifyJwt closes) .initial inputs

def history (inputs : List Input) : List (Receipt System Input (List (Nat × Outgoing))) :=
  Run.history (step text verifyJwt closes) .initial inputs

def Private (inputs : List Input) : Prop :=
  ∀ receipt ∈ history text verifyJwt closes inputs, ∀ event, receipt.input = .broadcast event →
    ∀ userId, event.topic = "user:" ++ userId → ∀ id sent, (id, sent) ∈ receipt.output →
      ∃ connection, receipt.before.connections[id]? = some connection ∧ connection.userId = userId

def subscribing (message : Json) : List Json :=
  match typeOf message, topicsOf message with
  | .ok "subscribe", .ok topics =>
    match spread topics with
    | .ok items => items
    | .error _ => []
  | _, _ => []

def OwnTopics (inputs : List Input) : Prop :=
  ∀ id message now older, .message id (some message) now :: older <:+ inputs →
    ∀ connection, (final text verifyJwt closes older).connections[id]? = some connection →
      ∀ userId, .string ("user:" ++ userId) ∈ subscribing message → userId = connection.userId

end Handlers

section Owned

variable {text : Json → String} {verifyJwt : String → Nat → Option String} {closes : Nat → Bool}
  {system : System} {connections connections' : List PushConnection} {connection after : PushConnection}
  {message : Json} {now : Nat} {sent : List (Nat × Outgoing)}

def Owned (connection : PushConnection) : Prop :=
  ∀ userId, .string ("user:" ++ userId) ∈ connection.subscribedTopics → userId = connection.userId

theorem same_string {topic : String} {item : Json} : same (.string topic) item = true ↔ item = .string topic := by
  cases item <;> simp [same, eq_comm]

theorem distinct_subset (items : List Json) : distinct items ⊆ items := by
  have folded (known : List Json) : items.foldl (fun known item =>
      if known.any (same item) then known else known ++ [item]) known ⊆ known ++ items := by
    induction items generalizing known with
    | nil => simp
    | cons item rest ih =>
      rw [List.foldl_cons]
      refine List.Subset.trans (ih _) ?_
      split
      · intro other member
        rcases List.mem_append.mp member with old | new
        · exact List.mem_append_left _ old
        · exact List.mem_append_right _ (.tail _ new)
      · simp
  exact folded []

theorem remaining_subset {topics : Json} {items kept : List Json}
    (filtered : remaining text topics items = .ok kept) : kept ⊆ items := by
  induction items generalizing kept with
  | nil =>
    cases filtered
    exact List.Subset.refl _
  | cons topic rest ih =>
    unfold remaining at filtered
    cases here : includes text topics topic with
    | error message => simp [here, bind, Except.bind] at filtered
    | ok gone =>
      cases later : remaining text topics rest with
      | error message => simp [here, later, bind, Except.bind] at filtered
      | ok others =>
        simp only [here, later, bind, Except.bind, Except.ok.injEq] at filtered
        subst filtered
        have within := ih later
        split
        · exact List.subset_cons_of_subset _ within
        · exact List.cons_subset_cons _ within

theorem handleMessage_topics {reply : Option Outgoing}
    (handled : handleMessage text connection message now = .ok (after, reply)) :
    after.userId = connection.userId ∧
      after.subscribedTopics ⊆ connection.subscribedTopics ++ subscribing message := by
  unfold handleMessage at handled
  cases type : typeOf message with
  | error thrown => simp [type, bind, Except.bind] at handled
  | ok type' =>
    simp only [type, bind, Except.bind] at handled
    split at handled
    · cases handled
      exact ⟨rfl, List.subset_append_left _ _⟩
    · split at handled
      · next subscribes =>
        cases named : topicsOf message with
        | error thrown => simp [named] at handled
        | ok topics =>
          cases items : spread topics with
          | error thrown => simp [named, items] at handled
          | ok items' =>
            simp only [named, items, Except.ok.injEq, Prod.mk.injEq] at handled
            obtain ⟨rfl, _⟩ := handled
            subst subscribes
            simp only [subscribing, type, named, items]
            exact ⟨trivial, distinct_subset _⟩
      · split at handled
        · cases named : topicsOf message with
          | error thrown => simp [named] at handled
          | ok topics =>
            cases kept : remaining text topics connection.subscribedTopics with
            | error thrown => simp [named, kept] at handled
            | ok kept' =>
              simp only [named, kept, Except.ok.injEq, Prod.mk.injEq] at handled
              obtain ⟨rfl, _⟩ := handled
              exact ⟨rfl, List.Subset.trans (remaining_subset kept) (List.subset_append_left _ _)⟩
        · cases handled
          exact ⟨rfl, List.subset_append_left _ _⟩

theorem handleMessage_owned {reply : Option Outgoing} (owned : Owned connection)
    (own : ∀ userId, .string ("user:" ++ userId) ∈ subscribing message → userId = connection.userId)
    (handled : handleMessage text connection message now = .ok (after, reply)) : Owned after := by
  obtain ⟨user, topics⟩ := handleMessage_topics handled
  intro userId member
  rw [user]
  rcases List.mem_append.mp (topics member) with old | new
  · exact owned userId old
  · exact own userId new

theorem handleConnection_owned {token : Option String}
    (opened : handleConnection verifyJwt token now = some connection) : Owned connection := by
  unfold handleConnection at opened
  split at opened
  · cases opened
  · split at opened
    · cases opened
    · cases opened
      intro userId member
      have topic := List.mem_singleton.mp member
      simpa using topic

theorem owned_set {id : Nat} (owned : ∀ connection ∈ connections, Owned connection) (kept : Owned after) :
    ∀ connection ∈ connections.set id after, Owned connection := by
  intro connection member
  rcases List.mem_or_eq_of_mem_set member with old | rfl
  · exact owned connection old
  · exact kept

theorem act_owned (input : Input) (owned : ∀ connection ∈ connections, Owned connection)
    (own : ∀ id message now, input = .message id (some message) now →
      ∀ connection, connections[id]? = some connection →
        ∀ userId, .string ("user:" ++ userId) ∈ subscribing message → userId = connection.userId)
    (acts : act text verifyJwt closes connections input = some (sent, connections')) :
    ∀ connection ∈ connections', Owned connection := by
  cases input with
  | connect token now =>
    simp only [act] at acts
    cases opened : handleConnection verifyJwt token now with
    | none =>
      simp only [opened] at acts
      split at acts <;> cases acts
      exact owned
    | some connection =>
      simp only [opened, Option.some.injEq, Prod.mk.injEq] at acts
      obtain ⟨_, rfl⟩ := acts
      intro other member
      rcases List.mem_append.mp member with old | new
      · exact owned other old
      · rw [List.mem_singleton.mp new]
        exact handleConnection_owned opened
  | message id data now =>
    simp only [act] at acts
    cases found : connections[id]? with
    | none =>
      simp only [found] at acts
      cases acts
      exact owned
    | some connection =>
      cases data with
      | none =>
        simp only [found] at acts
        cases acts
        exact owned
      | some message =>
        have held := owned connection (List.mem_of_getElem? found)
        cases handled : handleMessage text connection message now with
        | error thrown =>
          simp only [found, handled] at acts
          cases acts
          exact owned
        | ok result =>
          obtain ⟨changed, reply⟩ := result
          have kept := handleMessage_owned held (own id message now rfl connection found) handled
          cases reply with
          | none | some =>
            simp only [found, handled] at acts
            cases acts
            exact owned_set owned kept
  | timeout id now =>
    simp only [act] at acts
    cases found : connections[id]? with
    | none =>
      simp only [found] at acts
      cases acts
      exact owned
    | some connection =>
      simp only [found] at acts
      split at acts
      · split at acts <;> cases acts
        exact owned_set owned (owned connection (List.mem_of_getElem? found))
      · cases acts
        exact owned
  | close id =>
    simp only [act] at acts
    cases found : connections[id]? with
    | none =>
      simp only [found] at acts
      cases acts
      exact owned
    | some connection =>
      simp only [found] at acts
      cases acts
      exact owned_set owned (owned connection (List.mem_of_getElem? found))
  | broadcast event =>
    cases acts
    exact owned

theorem step_owned (input : Input) (owned : ∀ connection ∈ system.connections, Owned connection)
    (own : ∀ id message now, input = .message id (some message) now →
      ∀ connection, system.connections[id]? = some connection →
        ∀ userId, .string ("user:" ++ userId) ∈ subscribing message → userId = connection.userId) :
    ∀ connection ∈ (step text verifyJwt closes system input).2.connections, Owned connection := by
  unfold step
  cases running : system.running with
  | false => exact owned
  | true =>
    cases acts : act text verifyJwt closes system.connections input with
    | none => simp [System.ended]
    | some result => exact act_owned input owned own acts

theorem broadcast_owned {event : PushNotificationEvent} {userId : String} {id : Nat} {sent : Outgoing}
    (owned : ∀ connection ∈ connections, Owned connection)
    (delivered : (id, sent) ∈ broadcastToTopic connections ("user:" ++ userId) event) :
    ∃ connection, connections[id]? = some connection ∧ connection.userId = userId := by
  obtain ⟨⟨connection, id'⟩, member, same⟩ := List.mem_map.mp delivered
  cases same
  obtain ⟨member, chosen⟩ := List.mem_filter.mp member
  have found := List.mem_zipIdx_iff_getElem?.mp member
  rw [Bool.and_eq_true] at chosen
  obtain ⟨topic, listed, equal⟩ := List.any_eq_true.mp chosen.2
  rw [same_string.mp equal] at listed
  exact ⟨connection, found, (owned connection (List.mem_of_getElem? found) userId listed).symm⟩

theorem step_broadcast {event : PushNotificationEvent} {delivery : Nat × Outgoing}
    (delivered : delivery ∈ (step text verifyJwt closes system (.broadcast event)).1) :
    delivery ∈ broadcastToTopic system.connections event.topic event := by
  unfold step at delivered
  split at delivered
  · exact delivered
  · cases delivered

end Owned

/-- As long as no message subscribes a connection to the topic of another user, the topics of users
are private. -/
theorem user_topics_private (text : Json → String) (verifyJwt : String → Nat → Option String)
    (closes : Nat → Bool) (inputs : List Input) (own : OwnTopics text verifyJwt closes inputs) :
    Private text verifyJwt closes inputs := by
  have owned : ∀ older, older <:+ inputs →
      ∀ connection ∈ (final text verifyJwt closes older).connections, Owned connection := by
    refine Run.along ?_ ?_
    · nofun
    · intro input older within owned
      refine step_owned input owned ?_
      rintro id message now rfl
      exact own id message now older within
  intro receipt member event broadcast userId topic id sent delivered
  obtain ⟨input, older, within, rfl⟩ := (Run.mem_history _ _).mp member
  cases broadcast
  have chosen : (id, sent) ∈
      broadcastToTopic (final text verifyJwt closes older).connections event.topic event :=
    step_broadcast delivered
  rw [topic] at chosen
  exact broadcast_owned (owned older ((List.suffix_cons ..).trans within)) chosen

-- Tokens that are the names of their users.
def sampleText : Json → String
  | .string value => value
  | _ => ""

def sampleVerify (token : String) (_ : Nat) : Option String := some token

def sampleCloses (code : Nat) : Bool := 1000 ≤ code && code < 5000

def subscribeTo (topics : List String) : Json :=
  .object [("type", .string "subscribe"), ("topics", .array (topics.map .string))]

def orderShipped : PushNotificationEvent where
  topic := "user:ada"
  type := "order_shipped"
  payload := [("orderId", .string "ord-1")]
  publishedAt := "2025-01-01T00:00:00.000Z"

def listening (topics : List String) : List Input :=
  [.broadcast orderShipped, .message 1 (some (subscribeTo topics)) 2, .connect (some "bob") 1,
    .connect (some "ada") 0]

theorem user_topics_private_sample :
    Private sampleText sampleVerify sampleCloses (listening ["news", "user:bob"]) := by
  refine user_topics_private sampleText sampleVerify sampleCloses _ ?_
  intro id message now older within connection found userId named
  simp only [listening, List.suffix_cons_iff, List.suffix_nil, List.cons.injEq, reduceCtorEq, false_and,
    or_false, false_or, Input.message.injEq, Option.some.injEq] at within
  obtain ⟨⟨rfl, rfl, rfl⟩, rfl⟩ := within
  cases found
  have topics : subscribing (subscribeTo ["news", "user:bob"]) =
      [.string "news", .string ("user:" ++ "bob")] := rfl
  rw [topics] at named
  simp only [List.mem_cons, List.not_mem_nil, or_false, Json.string.injEq] at named
  rcases named with news | own
  · have chars := congrArg String.toList news
    simp at chars
  · exact (String.append_right_inj _).mp own

/-- A client that subscribes to the topic of another user gets what is broadcast there. -/
theorem foreign_topic_delivered : ¬ Private sampleText sampleVerify sampleCloses (listening ["user:ada"]) := by
  intro hidden
  have receipt := hidden _ (.head _) orderShipped rfl "ada" rfl 1 (.event orderShipped)
  have delivered : (1, Outgoing.event orderShipped) ∈
      broadcastToTopic (final sampleText sampleVerify sampleCloses (listening ["user:ada"]).tail).connections
        "user:ada" orderShipped := .tail _ (.head _)
  obtain ⟨connection, found, user⟩ := receipt delivered
  cases found
  exact absurd user (by decide)

end Delego.Notifications.WebSocket
