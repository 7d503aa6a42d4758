import Delego.Shared.Run
import Delego.Shared.Pieces
import Mathlib.Data.Finset.Insert

set_option autoImplicit false

namespace Delego.Messaging

open Shared Shared.Text

structure WorkflowEventIdempotencyKey where
  orderId : String
  eventId : String
  eventType : String
  deriving DecidableEq

structure WorkflowEventGuard where
  processed : Finset String

namespace WorkflowEventGuard

def new : WorkflowEventGuard := ⟨∅⟩

def key (k : WorkflowEventIdempotencyKey) : String :=
  "workflow:idempotency:" ++ k.orderId ++ ":" ++ k.eventType ++ ":" ++ k.eventId

variable (guard : WorkflowEventGuard)

def isProcessed (k : WorkflowEventIdempotencyKey) : Bool := key k ∈ guard.processed

def markProcessed (k : WorkflowEventIdempotencyKey) : WorkflowEventGuard :=
  ⟨insert (key k) guard.processed⟩

end WorkflowEventGuard

namespace WorkflowEventGuard

inductive Call where
  | isProcessed (k : WorkflowEventIdempotencyKey)
  | markProcessed (k : WorkflowEventIdempotencyKey)

def step (guard : WorkflowEventGuard) : Call → Option Bool × WorkflowEventGuard
  | .isProcessed k => (some (guard.isProcessed k), guard)
  | .markProcessed k => (none, guard.markProcessed k)

-- Calls one after the other, newest first.
def final (calls : List Call) : WorkflowEventGuard := Run.final step new calls

def Exact (calls : List Call) (k : WorkflowEventIdempotencyKey) : Prop :=
  (final calls).isProcessed k = true ↔ .markProcessed k ∈ calls

end WorkflowEventGuard

def WorkflowEventIdempotencyKey.colonPieces (k : WorkflowEventIdempotencyKey) : List (List Char) :=
  pieces ':' k.orderId ++ pieces ':' k.eventType ++ pieces ':' k.eventId

namespace WorkflowEventGuard

variable {k k' : WorkflowEventIdempotencyKey}

theorem key_eq_iff : key k = key k' ↔ k.colonPieces = k'.colonPieces := by
  have parts : ∀ k, key k = "workflow:idempotency:" ++ (k.orderId ++ ":" ++ k.eventType ++ ":" ++ k.eventId) := by
    intro k
    unfold key
    rw [String.append_assoc, String.append_assoc, String.append_assoc, String.append_assoc,
      String.append_assoc, String.append_assoc, String.append_assoc]
  have joined : ∀ k : WorkflowEventIdempotencyKey,
      pieces ':' (k.orderId ++ ":" ++ k.eventType) = pieces ':' k.orderId ++ pieces ':' k.eventType :=
    fun k => pieces_joined ':' k.orderId k.eventType
  rw [parts, parts, String.append_right_inj, joined_eq_iff, joined, joined]
  rfl

theorem isProcessed_iff (calls : List Call) (k : WorkflowEventIdempotencyKey) :
    (final calls).isProcessed k = true ↔ ∃ marked, .markProcessed marked ∈ calls ∧ key marked = key k := by
  induction calls with
  | nil => simp [final, Run.final, new, isProcessed]
  | cons call earlier ih =>
    cases call with
    | isProcessed asked =>
      simp only [List.mem_cons, reduceCtorEq, false_or]
      exact ih
    | markProcessed marked =>
      have grown : (final (.markProcessed marked :: earlier)).isProcessed k = true ↔
          key k = key marked ∨ (final earlier).isProcessed k = true := by
        simp only [isProcessed, decide_eq_true_eq]
        exact Finset.mem_insert
      rw [grown, ih]
      simp only [List.mem_cons, Call.markProcessed.injEq, or_and_right, exists_or, exists_eq_left,
        @eq_comm _ (key k)]

/-- The guard is right about a key just when the key is marked, or no marked key has the same pieces
between its colons. -/
theorem guard_exact_iff (calls : List Call) (k : WorkflowEventIdempotencyKey) :
    Exact calls k ↔
      .markProcessed k ∈ calls ∨ ∀ marked, .markProcessed marked ∈ calls → marked.colonPieces ≠ k.colonPieces := by
  unfold Exact
  rw [isProcessed_iff]
  simp only [key_eq_iff]
  constructor
  · intro right
    by_cases member : .markProcessed k ∈ calls
    · exact .inl member
    · refine .inr fun marked held same => ?_
      exact member (right.mp ⟨marked, held, same⟩)
  · rintro (member | apart)
    · exact iff_of_true ⟨k, member, rfl⟩ member
    · constructor
      · rintro ⟨marked, held, same⟩
        exact absurd same (apart marked held)
      · intro member
        exact absurd rfl (apart k member)

def shippedEvent : WorkflowEventIdempotencyKey where
  orderId := "order:7"
  eventId := "1"
  eventType := "shipped"

-- The colon of the order's id is taken for the one before the type.
def otherEvent : WorkflowEventIdempotencyKey where
  orderId := "order"
  eventId := "shipped:1"
  eventType := "7"

theorem event_dropped : ¬ ∀ calls k, Exact calls k := by
  intro right
  have marked := (right [.markProcessed shippedEvent] otherEvent).mp (by decide +kernel)
  have same := Call.markProcessed.inj (List.mem_singleton.mp marked)
  exact absurd same (by decide)

end WorkflowEventGuard

end Delego.Messaging
