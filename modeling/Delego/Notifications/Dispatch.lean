import Delego.Shared.Run
import Delego.Shared.Pieces
import Mathlib.Logic.Function.Basic

set_option autoImplicit false

namespace Delego.Notifications.Dispatch

open Shared Shared.Text

inductive Channel where
  | email
  | push
  deriving DecidableEq

def Channel.name : Channel → String
  | .email => "email"
  | .push => "push"

structure NotificationDispatchKey where
  userId : String
  channel : Channel
  eventType : String
  eventId : String

def deriveDispatchKey (key : NotificationDispatchKey) : String :=
  "dispatch:idempotency" ++ ":" ++ key.userId ++ ":" ++ key.channel.name ++ ":" ++ key.eventType ++ ":" ++
    key.eventId

-- In milliseconds: 24 hours.
def idempotencyTtl : Nat := 86400000

-- The keys that have been set, each with the time from which it is not there any more.
abbrev Redis := String → Option Nat

def Redis.has (redis : Redis) (now : Nat) (key : String) : Bool :=
  match redis key with
  | some expiry => now < expiry
  | none => false

def checkAndMarkDispatched (redis : Redis) (now : Nat) (key : NotificationDispatchKey) : Bool × Redis :=
  let redisKey := deriveDispatchKey key
  if redis.has now redisKey then (false, redis)
  else (true, Function.update redis redisKey (some (now + idempotencyTtl)))

structure PushSubscription where
  endpoint : String
  p256dh : String
  auth : String
  deriving DecidableEq

structure TransactionApprovalNotification where
  userId : String
  email : Option String
  transactionId : String
  amount : String
  merchant : String
  approvalUrl : String

structure ApprovalData where
  type : String
  transactionId : String
  amount : String
  merchant : String
  approvalUrl : String
  deriving DecidableEq

structure PushPayload where
  title : String
  body : String
  data : ApprovalData
  actions : List (String × String)
  deriving DecidableEq

structure ApprovalEmail where
  recipient : String
  subject : String
  templateName : String
  orderId : String
  amount : String
  approvalUrl : String
  deriving DecidableEq

def Redis.Until (redis : Redis) (time : Nat) (key : String) : Prop :=
  ∃ expiry, redis key = some expiry ∧ time ≤ expiry

-- What a dispatch sends; that a sending fails is only logged.
inductive Task where
  | email (email : ApprovalEmail)
  | push (subscription : PushSubscription) (payload : PushPayload)
  deriving DecidableEq

def approvalEmail (notification : TransactionApprovalNotification) (recipient : String) :
    ApprovalEmail where
  recipient
  subject := "Purchase Approval Required"
  templateName := "approval-request"
  orderId := notification.transactionId
  amount := notification.amount
  approvalUrl := notification.approvalUrl

def approvalPayload (notification : TransactionApprovalNotification) : PushPayload where
  title := "Purchase Approval Required"
  body := notification.merchant ++ " is requesting " ++ notification.amount
  data :=
    { type := "transaction_approval"
      transactionId := notification.transactionId
      amount := notification.amount
      merchant := notification.merchant
      approvalUrl := notification.approvalUrl }
  actions := [("approve", "Approve"), ("deny", "Deny")]

def approvalKey (userId : String) (channel : Channel) (eventId : String) : NotificationDispatchKey :=
  ⟨userId, channel, "transaction_approval", eventId⟩

-- Whether to send on a channel. An event without an id is always sent.
def shouldSend (redis : Redis) (now : Nat) (userId : String) (channel : Channel) (eventId : Option String) :
    Bool × Redis :=
  match truthy eventId with
  | none => (true, redis)
  | some eventId => checkAndMarkDispatched redis now (approvalKey userId channel eventId)

section Dispatch

variable (now : Nat) (notification : TransactionApprovalNotification) (eventId : Option String)

def dispatchEmail (redis : Redis) : List Task × Redis :=
  match truthy notification.email with
  | none => ([], redis)
  | some recipient =>
    let (send, redis) := shouldSend redis now notification.userId .email eventId
    (if send then [.email (approvalEmail notification recipient)] else [], redis)

def dispatchPushes : Redis → List PushSubscription → List Task × Redis
  | redis, [] => ([], redis)
  | redis, sub :: subscriptions =>
    let (send, redis) := shouldSend redis now notification.userId .push eventId
    let (tasks, redis) := dispatchPushes redis subscriptions
    (if send then .push sub (approvalPayload notification) :: tasks else tasks, redis)

/-- A dispatch at one point in time, with the subscriptions that the user has then. -/
def dispatchTransactionApproval (redis : Redis) (subscriptions : List PushSubscription) :
    List Task × Redis :=
  let (emails, redis) := dispatchEmail now notification eventId redis
  let (pushes, redis) := dispatchPushes now notification eventId redis subscriptions
  (emails ++ pushes, redis)

end Dispatch

def Task.pushedTo (endpoint : String) : Task → Bool
  | .email _ => false
  | .push subscription _ => subscription.endpoint = endpoint

def Redis.free : Redis := fun _ => none

structure Delivery where
  now : Nat
  notification : TransactionApprovalNotification
  eventId : Option String
  subscriptions : List PushSubscription

def deliver (redis : Redis) (delivery : Delivery) : List Task × Redis :=
  dispatchTransactionApproval delivery.now delivery.notification delivery.eventId redis
    delivery.subscriptions

def final (redis : Redis) (deliveries : List Delivery) : Redis := Run.final deliver redis deliveries

structure Redelivered (first again : Delivery) : Prop where
  user : again.notification.userId = first.notification.userId
  event : again.eventId = first.eventId
  email : truthy first.notification.email = none → truthy again.notification.email = none
  push : first.subscriptions = [] → again.subscriptions = []
  within : again.now < first.now + idempotencyTtl

/-- What a dispatch of an approval should do: each subscription gets the push once, and for the lifetime of
a key the event is not sent again, whatever other dispatches there have been since. -/
structure FanOut (redis : Redis) (first : Delivery) : Prop where
  once : ∀ subscription ∈ first.subscriptions,
    (deliver redis first).1.filter (Task.pushedTo subscription.endpoint) =
      [.push subscription (approvalPayload first.notification)]
  silent : ∀ between again, (∀ other ∈ between, other.now < first.now + idempotencyTtl) →
    first.now ≤ again.now → Redelivered first again →
    (deliver (final (deliver redis first).2 between) again).1 = []

section Keys

variable {redis : Redis} {now : Nat} {notification : TransactionApprovalNotification} {eventId : String}

theorem Channel.name_clean (channel : Channel) : ':' ∉ channel.name.toList := by
  cases channel <;> decide

theorem Channel.name_inj {channel channel' : Channel} (same : channel.name.toList = channel'.name.toList) :
    channel = channel' := by
  cases channel <;> cases channel' <;> first | rfl | (revert same; decide)

theorem deriveDispatchKey_toList (key : NotificationDispatchKey) :
    (deriveDispatchKey key).toList = "dispatch:idempotency".toList ++ ':' :: (key.userId.toList ++ ':' ::
      (key.channel.name.toList ++ ':' :: (key.eventType.toList ++ ':' :: key.eventId.toList))) := by
  have colon : ":".toList = [':'] := rfl
  unfold deriveDispatchKey
  generalize "dispatch:idempotency" = idempotencyNs
  simp only [String.toList_append, List.append_assoc, colon, List.cons_append, List.nil_append]

theorem approvalKey_inj {userId userId' eventId eventId' : String} {channel channel' : Channel}
    (same : deriveDispatchKey (approvalKey userId channel eventId) =
      deriveDispatchKey (approvalKey userId' channel' eventId'))
    (users : userId = userId' ∨ ':' ∉ userId.toList ∧ ':' ∉ userId'.toList) :
    userId = userId' ∧ channel = channel' ∧ eventId = eventId' := by
  have chars := congrArg String.toList same
  simp only [deriveDispatchKey_toList, approvalKey, List.append_cancel_left_eq, List.cons.injEq,
    true_and] at chars
  have user : userId = userId' := by
    rcases users with user | ⟨clean, clean'⟩
    · exact user
    · exact String.toList_inj.mp (first_separator_inj chars clean clean').1
  cases user
  simp only [List.append_cancel_left_eq, List.cons.injEq, true_and] at chars
  obtain ⟨names, rest⟩ := first_separator_inj chars channel.name_clean channel'.name_clean
  simp only [List.append_cancel_left_eq, List.cons.injEq, true_and] at rest
  exact ⟨rfl, Channel.name_inj names, String.toList_inj.mp rest⟩

theorem deriveDispatchKey_channel (userId eventId : String) :
    deriveDispatchKey (approvalKey userId .push eventId) ≠
      deriveDispatchKey (approvalKey userId .email eventId) := by
  intro same
  obtain ⟨_, channels, _⟩ := approvalKey_inj same (.inl rfl)
  cases channels

theorem shouldSend_held {channel : Channel} {userId : String} (named : eventId ≠ "")
    (held : redis.has now (deriveDispatchKey (approvalKey userId channel eventId)) = true) :
    shouldSend redis now userId channel (some eventId) = (false, redis) := by
  simp [shouldSend, truthy_some named, checkAndMarkDispatched, held]

theorem shouldSend_free {channel : Channel} {userId : String} (named : eventId ≠ "")
    (free : redis.has now (deriveDispatchKey (approvalKey userId channel eventId)) = false) :
    shouldSend redis now userId channel (some eventId) =
      (true, Function.update redis (deriveDispatchKey (approvalKey userId channel eventId))
        (some (now + idempotencyTtl))) := by
  simp [shouldSend, truthy_some named, checkAndMarkDispatched, free]

theorem has_marked {key : String} {later expiry : Nat} (within : later < expiry) :
    Redis.has (Function.update redis key (some expiry)) later key = true := by
  simp [Redis.has, within]

theorem has_other {key other : String} {expiry : Nat} (apart : other ≠ key) :
    Redis.has (Function.update redis key (some expiry)) now other = redis.has now other := by
  simp [Redis.has, Function.update_of_ne apart]

theorem has_until {later time : Nat} {key : String} (kept : redis.Until time key) (within : later < time) :
    redis.has later key = true := by
  obtain ⟨expiry, stored, covered⟩ := kept
  simp only [Redis.has, stored, decide_eq_true_eq]
  omega

theorem dispatchEmail_until (named : eventId ≠ "") (addressed : truthy notification.email ≠ none)
    (settled : ∀ expiry, redis (deriveDispatchKey (approvalKey notification.userId .email eventId)) =
      some expiry → expiry ≤ now ∨ now + idempotencyTtl ≤ expiry) :
    (dispatchEmail now notification (some eventId) redis).2.Until (now + idempotencyTtl)
      (deriveDispatchKey (approvalKey notification.userId .email eventId)) := by
  obtain ⟨recipient, told⟩ := Option.ne_none_iff_exists'.mp addressed
  simp only [dispatchEmail, told]
  cases held : redis.has now (deriveDispatchKey (approvalKey notification.userId .email eventId)) with
  | true =>
    rw [shouldSend_held named held]
    unfold Redis.has at held
    cases stored : redis (deriveDispatchKey (approvalKey notification.userId .email eventId)) with
    | none =>
      rw [stored] at held
      cases held
    | some expiry =>
      simp only [stored, decide_eq_true_eq] at held
      have ends := settled expiry stored
      exact ⟨expiry, stored, by omega⟩
  | false =>
    rw [shouldSend_free named held]
    exact ⟨now + idempotencyTtl, Function.update_self .., le_refl _⟩

theorem dispatchEmail_push (now later : Nat) (notification : TransactionApprovalNotification)
    (named : eventId ≠ "") :
    (dispatchEmail now notification (some eventId) redis).2.has later
        (deriveDispatchKey (approvalKey notification.userId .push eventId)) =
      redis.has later (deriveDispatchKey (approvalKey notification.userId .push eventId)) := by
  unfold dispatchEmail
  cases truthy notification.email with
  | none => rfl
  | some recipient =>
    cases held : redis.has now (deriveDispatchKey (approvalKey notification.userId .email eventId)) with
    | true => simp only [shouldSend_held named held]
    | false =>
      simp only [shouldSend_free named held]
      exact has_other (deriveDispatchKey_channel _ _)

theorem dispatchPushes_held (named : eventId ≠ "")
    (held : redis.has now (deriveDispatchKey (approvalKey notification.userId .push eventId)) = true)
    (subscriptions : List PushSubscription) :
    dispatchPushes now notification (some eventId) redis subscriptions = ([], redis) := by
  induction subscriptions with
  | nil => rfl
  | cons sub subscriptions ih => simp [dispatchPushes, shouldSend_held named held, ih]

theorem dispatchPushes_free (named : eventId ≠ "")
    (free : redis.has now (deriveDispatchKey (approvalKey notification.userId .push eventId)) = false)
    (sub : PushSubscription) (subscriptions : List PushSubscription) :
    dispatchPushes now notification (some eventId) redis (sub :: subscriptions) =
      ([.push sub (approvalPayload notification)],
        Function.update redis (deriveDispatchKey (approvalKey notification.userId .push eventId))
          (some (now + idempotencyTtl))) := by
  have marked : Redis.has (Function.update redis (deriveDispatchKey
      (approvalKey notification.userId .push eventId)) (some (now + idempotencyTtl))) now
      (deriveDispatchKey (approvalKey notification.userId .push eventId)) = true :=
    has_marked (by simp [idempotencyTtl])
  simp only [dispatchPushes, shouldSend_free named free, dispatchPushes_held named marked, if_true]

theorem dispatchEmail_unpushed (endpoint : String) (eventId : Option String) :
    (dispatchEmail now notification eventId redis).1.filter (Task.pushedTo endpoint) = [] := by
  unfold dispatchEmail
  cases truthy notification.email with
  | none => rfl
  | some recipient =>
    dsimp only
    split
    · rfl
    · rfl

theorem dispatch_tasks (subscriptions : List PushSubscription) (endpoint : String) :
    (dispatchTransactionApproval now notification (some eventId) redis subscriptions).1.filter
        (Task.pushedTo endpoint) =
      (dispatchPushes now notification (some eventId)
        (dispatchEmail now notification (some eventId) redis).2 subscriptions).1.filter
        (Task.pushedTo endpoint) := by
  simp [dispatchTransactionApproval, dispatchEmail_unpushed]

theorem dispatch_silent (named : eventId ≠ "")
    (email : truthy notification.email ≠ none →
      redis.has now (deriveDispatchKey (approvalKey notification.userId .email eventId)) = true)
    {subscriptions : List PushSubscription} (push : subscriptions ≠ [] →
      redis.has now (deriveDispatchKey (approvalKey notification.userId .push eventId)) = true) :
    dispatchTransactionApproval now notification (some eventId) redis subscriptions = ([], redis) := by
  have quiet : dispatchEmail now notification (some eventId) redis = ([], redis) := by
    unfold dispatchEmail
    cases told : truthy notification.email with
    | none => rfl
    | some recipient => simp [shouldSend_held named (email (by simp [told]))]
  cases subscriptions with
  | nil => simp [dispatchTransactionApproval, quiet, dispatchPushes]
  | cons sub subscriptions =>
    simp [dispatchTransactionApproval, quiet, dispatchPushes_held named (push (by simp))]

end Keys

section Deliveries

def Marked (delivery : Delivery) (before after : Redis) : Prop :=
  ∀ key, after key = before key ∨ before.has delivery.now key = false ∧ ∃ channel eventId,
    delivery.eventId = some eventId ∧
    key = deriveDispatchKey (approvalKey delivery.notification.userId channel eventId) ∧
    after key = some (delivery.now + idempotencyTtl)

variable {delivery : Delivery} {before middle after redis : Redis}

theorem has_congr {now : Nat} {key : String} (same : after key = before key) :
    after.has now key = before.has now key := by
  simp only [Redis.has, same]

theorem Marked.trans (first : Marked delivery before middle) (second : Marked delivery middle after) :
    Marked delivery before after := by
  intro key
  rcases second key with same | ⟨free, marked⟩
  · rw [same]
    exact first key
  · rcases first key with same | ⟨free', _⟩
    · exact .inr ⟨(has_congr same).symm.trans free, marked⟩
    · exact .inr ⟨free', marked⟩

theorem Marked.until {time : Nat} {key : String} (marked : Marked delivery before after)
    (within : delivery.now < time) (kept : before.Until time key) : after.Until time key := by
  rcases marked key with same | ⟨free, _⟩
  · simpa only [Redis.Until, same] using kept
  · rw [has_until kept within] at free
    cases free

theorem shouldSend_marked (delivery : Delivery) (redis : Redis) (channel : Channel) :
    Marked delivery redis (shouldSend redis delivery.now delivery.notification.userId channel
      delivery.eventId).2 := by
  intro key
  unfold shouldSend
  cases told : truthy delivery.eventId with
  | none => exact .inl rfl
  | some eventId =>
    cases held : redis.has delivery.now
        (deriveDispatchKey (approvalKey delivery.notification.userId channel eventId)) with
    | true =>
      simp only [checkAndMarkDispatched, held]
      exact .inl rfl
    | false =>
      simp only [checkAndMarkDispatched, held, Bool.false_eq_true, if_false]
      by_cases own : key = deriveDispatchKey (approvalKey delivery.notification.userId channel eventId)
      · cases own
        exact .inr ⟨held, channel, eventId, (Option.filter_eq_some_iff.mp told).1, rfl,
          Function.update_self ..⟩
      · exact .inl (Function.update_of_ne own ..)

theorem dispatchPushes_marked (delivery : Delivery) (redis : Redis) (subscriptions : List PushSubscription) :
    Marked delivery redis (dispatchPushes delivery.now delivery.notification delivery.eventId redis
      subscriptions).2 := by
  induction subscriptions generalizing redis with
  | nil => exact fun _ => .inl rfl
  | cons sub subscriptions ih => exact (shouldSend_marked delivery redis .push).trans (ih _)

theorem deliver_marked (delivery : Delivery) (redis : Redis) :
    Marked delivery redis (deliver redis delivery).2 := by
  have email : Marked delivery redis
      (dispatchEmail delivery.now delivery.notification delivery.eventId redis).2 := by
    unfold dispatchEmail
    cases truthy delivery.notification.email with
    | none => exact fun _ => .inl rfl
    | some recipient => exact shouldSend_marked delivery redis .email
  exact email.trans (dispatchPushes_marked delivery _ delivery.subscriptions)

theorem final_until {deliveries : List Delivery} {time : Nat} {key : String} (kept : redis.Until time key)
    (within : ∀ delivery ∈ deliveries, delivery.now < time) : (final redis deliveries).Until time key := by
  induction deliveries with
  | nil => exact kept
  | cons delivery earlier ih =>
    have before := ih fun other member => within other (.tail _ member)
    exact (deliver_marked delivery _).until (within delivery (.head _)) before

theorem held_delivered {deliveries : List Delivery} {now : Nat} {key : String}
    (held : (final .free deliveries).has now key = true) : ∃ delivery ∈ deliveries, ∃ channel eventId,
      delivery.eventId = some eventId ∧ now < delivery.now + idempotencyTtl ∧
      key = deriveDispatchKey (approvalKey delivery.notification.userId channel eventId) := by
  induction deliveries with
  | nil => cases held
  | cons delivery earlier ih =>
    rcases deliver_marked delivery (final .free earlier) key with same |
        ⟨_, channel, eventId, named, own, set⟩
    · obtain ⟨other, member, rest⟩ := ih ((has_congr same).symm.trans held)
      exact ⟨other, .tail _ member, rest⟩
    · refine ⟨delivery, .head _, channel, eventId, named, ?_, own⟩
      simp only [Redis.has, final, Run.final] at set held
      rw [set] at held
      simpa using held

theorem undispatched_free {deliveries : List Delivery} {userId eventId : String}
    (clean : ':' ∉ userId.toList)
    (cleans : ∀ delivery ∈ deliveries, ':' ∉ delivery.notification.userId.toList)
    (undispatched : ∀ delivery ∈ deliveries, delivery.notification.userId = userId →
      delivery.eventId ≠ some eventId) (now : Nat) (channel : Channel) :
    (final .free deliveries).has now (deriveDispatchKey (approvalKey userId channel eventId)) = false := by
  cases held : (final .free deliveries).has now (deriveDispatchKey (approvalKey userId channel eventId)) with
  | false => rfl
  | true =>
    obtain ⟨delivery, member, channel', eventId', named, _, same⟩ := held_delivered held
    obtain ⟨user, _, event⟩ := approvalKey_inj same (.inr ⟨clean, cleans delivery member⟩)
    rw [← event] at named
    exact absurd named (undispatched delivery member user.symm)

end Deliveries

section FanOut

variable {first : Delivery} {eventId : String} {redis : Redis}

-- The event's push key is free, and its email key is not about to end, where they are gone by.
def Settled (redis : Redis) (first : Delivery) (eventId : String) : Prop :=
  (first.subscriptions ≠ [] →
    redis.has first.now (deriveDispatchKey (approvalKey first.notification.userId .push eventId)) = false) ∧
  (truthy first.notification.email ≠ none → ∀ expiry,
    redis (deriveDispatchKey (approvalKey first.notification.userId .email eventId)) = some expiry →
      expiry ≤ first.now ∨ first.now + idempotencyTtl ≤ expiry)

theorem once_single (event : first.eventId = some eventId) (named : eventId ≠ "")
    (distinct : (first.subscriptions.map PushSubscription.endpoint).Nodup)
    (once : ∀ subscription ∈ first.subscriptions,
      (deliver redis first).1.filter (Task.pushedTo subscription.endpoint) =
        [.push subscription (approvalPayload first.notification)]) :
    first.subscriptions.length ≤ 1 ∧ (first.subscriptions ≠ [] →
      redis.has first.now (deriveDispatchKey (approvalKey first.notification.userId .push eventId)) =
        false) := by
  simp only [deliver, event, dispatch_tasks] at once
  have email : (dispatchEmail first.now first.notification (some eventId) redis).2.has first.now
      (deriveDispatchKey (approvalKey first.notification.userId .push eventId)) =
      redis.has first.now (deriveDispatchKey (approvalKey first.notification.userId .push eventId)) :=
    dispatchEmail_push first.now first.now first.notification named
  cases listed : first.subscriptions with
  | nil => simp
  | cons sub subscriptions =>
    rw [listed] at once distinct
    have pushed := once sub (.head _)
    cases held : redis.has first.now
        (deriveDispatchKey (approvalKey first.notification.userId .push eventId)) with
    | true =>
      rw [dispatchPushes_held named (by rw [email, held])] at pushed
      cases pushed
    | false =>
      cases subscriptions with
      | nil => simp
      | cons other subscriptions =>
        have second := once other (.tail _ (.head _))
        rw [dispatchPushes_free named (by rw [email, held])] at second
        have apart : sub.endpoint ≠ other.endpoint := by
          simp only [List.map_cons, List.nodup_cons, List.mem_cons, not_or] at distinct
          exact distinct.1.1
        simp [Task.pushedTo, apart] at second

-- Sent again when the email key of an earlier dispatch has just ended, the event is mailed again.
theorem silent_email (event : first.eventId = some eventId) (named : eventId ≠ "")
    (silent : ∀ again, first.now ≤ again.now → Redelivered first again →
      (deliver (deliver redis first).2 again).1 = [])
    (addressed : truthy first.notification.email ≠ none) {expiry : Nat}
    (stored : redis (deriveDispatchKey (approvalKey first.notification.userId .email eventId)) = some expiry) :
    expiry ≤ first.now ∨ first.now + idempotencyTtl ≤ expiry := by
  by_contra ends
  simp only [not_or, not_le] at ends
  have quiet := silent { first with now := expiry } ends.1.le
    ⟨rfl, rfl, fun none => none, fun none => none, ends.2⟩
  have kept : (deliver redis first).2
      (deriveDispatchKey (approvalKey first.notification.userId .email eventId)) = some expiry := by
    rcases deliver_marked first redis
        (deriveDispatchKey (approvalKey first.notification.userId .email eventId)) with same | ⟨free, _⟩
    · rw [same, stored]
    · simp [Redis.has, stored, ends.1.not_ge] at free
  have ended : (deliver redis first).2.has expiry
      (deriveDispatchKey (approvalKey first.notification.userId .email eventId)) = false := by
    simp [Redis.has, kept]
  obtain ⟨recipient, told⟩ := Option.ne_none_iff_exists'.mp addressed
  generalize (deliver redis first).2 = left at quiet ended
  simp [deliver, dispatchTransactionApproval, dispatchEmail, told, event, shouldSend_free named ended] at quiet

theorem deliver_until (event : first.eventId = some eventId) (named : eventId ≠ "")
    (settled : Settled redis first eventId) :
    (truthy first.notification.email ≠ none → (deliver redis first).2.Until (first.now + idempotencyTtl)
      (deriveDispatchKey (approvalKey first.notification.userId .email eventId))) ∧
    (first.subscriptions ≠ [] → (deliver redis first).2.Until (first.now + idempotencyTtl)
      (deriveDispatchKey (approvalKey first.notification.userId .push eventId))) := by
  constructor
  · intro addressed
    have mailed := dispatchEmail_until named addressed (settled.2 addressed)
    rw [← event] at mailed
    exact (dispatchPushes_marked first _ first.subscriptions).until (by simp [idempotencyTtl]) mailed
  · intro some'
    have free := settled.1 some'
    rw [← dispatchEmail_push first.now first.now first.notification named] at free
    cases listed : first.subscriptions with
    | nil => exact absurd listed some'
    | cons sub subscriptions =>
      simp only [deliver, dispatchTransactionApproval, event, listed, dispatchPushes_free named free]
      exact ⟨_, Function.update_self .., le_refl _⟩

theorem silent_settled (event : first.eventId = some eventId) (named : eventId ≠ "")
    (settled : Settled redis first eventId) {between : List Delivery} {again : Delivery}
    (since : ∀ other ∈ between, other.now < first.now + idempotencyTtl)
    (redelivered : Redelivered first again) :
    (deliver (final (deliver redis first).2 between) again).1 = [] := by
  obtain ⟨email, push⟩ := deliver_until event named settled
  generalize (deliver redis first).2 = left at email push ⊢
  have silent : deliver (final left between) again = ([], final left between) := by
    simp only [deliver, redelivered.event, event]
    apply dispatch_silent named
    · intro addressed
      rw [redelivered.user]
      exact has_until (final_until (email (mt redelivered.email addressed)) since) redelivered.within
    · intro some'
      rw [redelivered.user]
      exact has_until (final_until (push (mt redelivered.push some')) since) redelivered.within
  rw [silent]

/-- An approval fans out as it should to no device, or to a single one whose event has not been pushed within
the last day, and where the email key is not one that ends before the new ones would; with a second device it
does not. -/
theorem fanOut_iff (event : first.eventId = some eventId) (named : eventId ≠ "")
    (distinct : (first.subscriptions.map PushSubscription.endpoint).Nodup) :
    FanOut redis first ↔ first.subscriptions.length ≤ 1 ∧ Settled redis first eventId := by
  constructor
  · intro fanOut
    obtain ⟨single, free⟩ := once_single event named distinct fanOut.once
    refine ⟨single, free, ?_⟩
    intro addressed expiry stored
    exact silent_email event named (fun again => fanOut.silent [] again (by simp)) addressed stored
  · rintro ⟨single, settled⟩
    constructor
    · intro sub member
      have free := settled.1 (List.ne_nil_of_mem member)
      rw [← dispatchEmail_push first.now first.now first.notification named] at free
      have only : first.subscriptions = [sub] := by
        obtain ⟨other, listed⟩ := List.length_eq_one_iff.mp
          (le_antisymm single (List.length_pos_of_mem member))
        rw [listed, List.mem_singleton] at member
        rw [listed, member]
      simp only [deliver, event, dispatch_tasks, only, dispatchPushes_free named free]
      simp [Task.pushedTo]
    · intro between again since _ redelivered
      exact silent_settled event named settled since redelivered

def sampleApproval : TransactionApprovalNotification where
  userId := "user"
  email := some "user@example.org"
  transactionId := "transaction"
  amount := "25.00"
  merchant := "merchant"
  approvalUrl := "url"

def phone : PushSubscription := ⟨"phone", "", ""⟩

def laptop : PushSubscription := ⟨"laptop", "", ""⟩

def sampleDelivery (subscriptions : List PushSubscription) : Delivery :=
  ⟨0, sampleApproval, some "event", subscriptions⟩

theorem fanOut_phone : FanOut .free (sampleDelivery [phone]) := by
  have event : (sampleDelivery [phone]).eventId = some "event" := rfl
  apply (fanOut_iff event (by decide) (by decide)).mpr
  refine ⟨le_refl 1, fun _ => rfl, ?_⟩
  intro _ expiry stored
  cases stored

/-- With a second device, the first one takes the key of both. -/
theorem laptop_unpushed : ¬ FanOut .free (sampleDelivery [phone, laptop]) := by
  intro fanOut
  have second := fanOut.once laptop (.tail _ (.head _))
  simp only [deliver, sampleDelivery, dispatch_tasks] at second
  rw [dispatchPushes_free (by decide) (by rw [dispatchEmail_push 0 0 _ (by decide)]; rfl)] at second
  revert second
  decide

end FanOut

end Delego.Notifications.Dispatch
