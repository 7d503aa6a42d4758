import Delego.Shared.Run
import Delego.Shared.Text

set_option autoImplicit false

namespace Delego.Messaging

open Shared Shared.Text

structure ProcessedMessageRecord where
  messageId : String
  consumer : String
  processedAt : Nat
  deriving DecidableEq

/-- The map of the in-memory store, by message ids, newest entry first. -/
structure InMemoryProcessedMessageStore where
  processed : List ProcessedMessageRecord
  single : (processed.map ProcessedMessageRecord.messageId).Nodup

structure Claim where
  messageId : String
  consumer : String
  now : Nat

namespace InMemoryProcessedMessageStore

def new : InMemoryProcessedMessageStore := ⟨[], .nil⟩

variable (store : InMemoryProcessedMessageStore)

def has (messageId : String) : Bool := messageId ∈ store.processed.map ProcessedMessageRecord.messageId

def checkAndMark (claim : Claim) : Bool × InMemoryProcessedMessageStore :=
  if held : store.has claim.messageId = true then (false, store)
  else
    (true,
      { processed := ⟨claim.messageId, claim.consumer, claim.now⟩ :: store.processed
        single := by
          rw [List.map_cons, List.nodup_cons]
          exact ⟨by simpa [has] using held, store.single⟩ })

end InMemoryProcessedMessageStore

open InMemoryProcessedMessageStore

def checkAndMarkProcessed (processedMessageStore : InMemoryProcessedMessageStore) (claim : Claim) :
    Except String Bool × InMemoryProcessedMessageStore :=
  if trim claim.messageId = "" then (.error "messageId is required", processedMessageStore)
  else if trim claim.consumer = "" then (.error "consumer is required", processedMessageStore)
  else
    let (claimed, store) := processedMessageStore.checkAndMark claim
    (.ok claimed, store)

abbrev ClaimReceipt := Receipt InMemoryProcessedMessageStore Claim (Except String Bool)

-- Calls one after the other, newest first.
def final (claims : List Claim) : InMemoryProcessedMessageStore :=
  Run.final checkAndMarkProcessed .new claims

def history (claims : List Claim) : List ClaimReceipt := Run.history checkAndMarkProcessed .new claims

def Claim.Stated (claim : Claim) : Prop := trim claim.messageId ≠ "" ∧ trim claim.consumer ≠ ""

def Claimed (past : List ClaimReceipt) (messageId : String) : Prop :=
  ∃ receipt ∈ past, receipt.input.messageId = messageId ∧ receipt.output = .ok true

def ClaimedBy (past : List ClaimReceipt) (messageId consumer : String) : Prop :=
  ∃ receipt ∈ past, receipt.input.messageId = messageId ∧ receipt.input.consumer = consumer ∧
    receipt.output = .ok true

section Claims

variable {store : InMemoryProcessedMessageStore} {claim : Claim} {claims : List Claim}

theorem checkAndMarkProcessed_cases (store : InMemoryProcessedMessageStore) (claim : Claim) :
    (¬ claim.Stated ∧ ∃ message, checkAndMarkProcessed store claim = (.error message, store)) ∨
    (claim.Stated ∧ store.has claim.messageId = true ∧
      checkAndMarkProcessed store claim = (.ok false, store)) ∨
    claim.Stated ∧ store.has claim.messageId = false ∧ ∃ store',
      (∀ messageId, store'.has messageId = (messageId = claim.messageId || store.has messageId)) ∧
      checkAndMarkProcessed store claim = (.ok true, store') := by
  unfold checkAndMarkProcessed
  by_cases unnamed : trim claim.messageId = ""
  · rw [if_pos unnamed]
    exact .inl ⟨fun stated => stated.1 unnamed, _, rfl⟩
  by_cases unowned : trim claim.consumer = ""
  · rw [if_neg unnamed, if_pos unowned]
    exact .inl ⟨fun stated => stated.2 unowned, _, rfl⟩
  rw [if_neg unnamed, if_neg unowned]
  unfold checkAndMark
  by_cases held : store.has claim.messageId = true
  · rw [dif_pos held]
    exact .inr (.inl ⟨⟨unnamed, unowned⟩, held, rfl⟩)
  · rw [dif_neg held]
    refine .inr (.inr ⟨⟨unnamed, unowned⟩, Bool.eq_false_iff.mpr held, _, ?_, rfl⟩)
    intro messageId
    simp [has]

theorem has_iff_claimed (claims : List Claim) (messageId : String) :
    (final claims).has messageId = true ↔ Claimed (history claims) messageId := by
  induction claims with
  | nil => simp [final, Run.final, new, has, Claimed, history, Run.history]
  | cons claim earlier ih =>
    have past : Claimed (history (claim :: earlier)) messageId ↔
        (claim.messageId = messageId ∧ (checkAndMarkProcessed (final earlier) claim).1 = .ok true) ∨
          Claimed (history earlier) messageId := by
      simp only [Claimed, history, Run.history, List.mem_cons, exists_eq_or_imp]
      rfl
    rw [past, ← ih]
    show (checkAndMarkProcessed (final earlier) claim).2.has messageId = true ↔ _
    rcases checkAndMarkProcessed_cases (final earlier) claim with
      ⟨_, message, threw⟩ | ⟨_, _, refused⟩ | ⟨_, _, store', grown, marked⟩
    · simp [threw]
    · simp [refused]
    · simp [marked, grown, @eq_comm _ messageId]

/-- A call returns `true` if and only if no earlier call for that message has, whoever made it. -/
theorem claimed_once (claims : List Claim) (claim : Claim) (stated : claim.Stated) :
    ∃ answer, (checkAndMarkProcessed (final claims) claim).1 = .ok answer ∧
      (answer = true ↔ ¬ Claimed (history claims) claim.messageId) := by
  rw [← has_iff_claimed]
  rcases checkAndMarkProcessed_cases (final claims) claim with
    ⟨unstated, _⟩ | ⟨_, held, refused⟩ | ⟨_, free, store', _, marked⟩
  · exact absurd stated unstated
  · exact ⟨false, by rw [refused], by simp [held]⟩
  · exact ⟨true, by rw [marked], by simp [free]⟩

def paymentsClaim : Claim := ⟨"message", "payments-worker", 0⟩

def notificationsClaim : Claim := ⟨"message", "notifications-worker", 1⟩

theorem notificationsClaim_answered : ∃ answer,
    (checkAndMarkProcessed (final [paymentsClaim]) notificationsClaim).1 = .ok answer ∧
      (answer = true ↔ ¬ Claimed (history [paymentsClaim]) "message") :=
  claimed_once [paymentsClaim] notificationsClaim ⟨by decide, by decide⟩

/-- The claim of one consumer is refused to another one, which has not made it. -/
theorem claim_suppressed : ¬ ∀ claims claim, claim.Stated →
    ∃ answer, (checkAndMarkProcessed (final claims) claim).1 = .ok answer ∧
      (answer = true ↔ ¬ ClaimedBy (history claims) claim.messageId claim.consumer) := by
  intro perConsumer
  obtain ⟨answer, answered, iff⟩ :=
    perConsumer [paymentsClaim] notificationsClaim ⟨by decide, by decide⟩
  have refused : (checkAndMarkProcessed (final [paymentsClaim]) notificationsClaim).1 = .ok false := by
    decide
  rw [refused] at answered
  cases answered
  apply Bool.false_ne_true
  rw [iff]
  rintro ⟨receipt, member, _, consumer, _⟩
  cases List.mem_singleton.mp member
  revert consumer
  decide

end Claims

end Delego.Messaging
