import Delego.Shared.Pieces
import Delego.Wallet.TxQueue

set_option autoImplicit false

namespace Delego.Wallet.TxQueue

open Shared Shared.Text

-- The marks between the values of a JSON text.
def punctuation : List Char := ['{', '}', '[', ']', ':', ',', '"', '-']

def hexDigits : List Char := "0123456789abcdef".toList

-- What is said of the characters of a text is decided along the text, not over every `Char`.
local instance everyChar (text : List Char) (p : Char → Prop) [DecidablePred p] :
    Decidable (∀ c ∈ text, p c) :=
  text.decidableBAll p

local instance someChar (text : List Char) (p : Char → Prop) [DecidablePred p] :
    Decidable (∃ c ∈ text, p c) :=
  text.decidableBEx p

/-- What a response tells beside the kind of failure: its hash, and the digits of ledgers, times and
fees. -/
structure ResponseData where
  text : Nat → List Char
  digits : ∀ slot, ∀ c ∈ text slot, c ∈ hexDigits

inductive Piece where
  | own (text : List Char)
  | datum (slot : Nat)

/-- The JSON of the responses of one kind, which are the same but for their data. Each datum stands
between two marks. -/
structure FailureKind where
  pieces : List (Char × Piece)
  marked : ∀ piece ∈ pieces, piece.1 ∈ punctuation

def Piece.chars (data : ResponseData) : Piece → List Char
  | .own text => text
  | .datum slot => data.text slot

def Piece.lower : Piece → Piece
  | .own text => .own (text.flatMap lowered)
  | .datum slot => .datum slot

-- Whether a pattern is found in the text of the kind, or in a datum.
def Piece.states (pattern : String) : Piece → Bool
  | .own text => occurs pattern.toList text
  | .datum _ => false

def Piece.holds (data : ResponseData) (pattern : String) : Piece → Bool
  | .own _ => false
  | .datum slot => occurs pattern.toList (data.text slot)

namespace FailureKind

variable (kind : FailureKind)

def chars (data : ResponseData) : List Char :=
  kind.pieces.flatMap fun piece => piece.1 :: piece.2.chars data

def lower : FailureKind where
  pieces := kind.pieces.map fun piece => (piece.1, piece.2.lower)
  marked := by
    intro piece member
    obtain ⟨original, held, rfl⟩ := List.mem_map.mp member
    exact kind.marked original held

def response (data : ResponseData) : SendTransactionResponse where
  status := "ERROR"
  hash := String.ofList (data.text 0)
  json := String.ofList (kind.chars data)

def States (pattern : String) : Prop := ∃ piece ∈ kind.pieces, piece.2.states pattern = true

def Holds (data : ResponseData) (pattern : String) : Prop :=
  ∃ piece ∈ kind.pieces, piece.2.holds data pattern = true

instance (pattern : String) : Decidable (kind.States pattern) :=
  inferInstanceAs (Decidable (∃ piece ∈ kind.pieces, piece.2.states pattern = true))

instance (data : ResponseData) (pattern : String) : Decidable (kind.Holds data pattern) :=
  inferInstanceAs (Decidable (∃ piece ∈ kind.pieces, piece.2.holds data pattern = true))

end FailureKind

def retried : Phase → Option Bool
  | .thrown (.error _) => some true
  | .thrown (.unrecoverable _) => some false
  | _ => none

-- What becomes of an attempt once the response is there, with the answer to the reset of the cache.
def settledBy (request : TransactionRequest) (attempt : Nat) (sequence : Int) (reset : Response)
    (reply : SendTransactionResponse) : Phase :=
  match executeTxJob request attempt (.send sequence) (.sent reply) with
  | .resetRejected message => executeTxJob request attempt (.resetRejected message) reset
  | phase => phase

def httpCodes : List String := ["429", "500", "502", "503", "504"]

def settlingPatterns : List String :=
  malformedXdrPatterns ++ authFailurePatterns ++ ["simulation failed", "bad_seq", "transaction failed"] ++
    retryableNetworkPatterns

-- The text of the kind itself has a word that settles the decision.
def FailureKind.Settled (kind : FailureKind) : Prop :=
  ∃ pattern ∈ settlingPatterns, kind.lower.States pattern

def FailureKind.ShowsCode (kind : FailureKind) (data : ResponseData) : Prop :=
  ∃ code ∈ httpCodes, kind.Holds data code

instance (kind : FailureKind) (data : ResponseData) : Decidable (kind.ShowsCode data) :=
  inferInstanceAs (Decidable (∃ code ∈ httpCodes, kind.Holds data code))

section Lowering

theorem lowered_punctuation : ∀ mark ∈ punctuation, lowered mark = [mark] := by decide

theorem lowered_digit : ∀ c ∈ hexDigits, lowered c = [c] := by decide

theorem lowered_letter : ∀ index : Fin 26, (lowered (Char.ofNat (65 + index))).flatMap lowered =
    lowered (Char.ofNat (65 + index)) := by
  decide

theorem lowered_lowered (c : Char) : (lowered c).flatMap lowered = lowered c := by
  by_cases upper : 'A' ≤ c ∧ c ≤ 'Z'
  · have bounds : 65 ≤ c.toNat ∧ c.toNat ≤ 90 := upper
    have letter := lowered_letter ⟨c.toNat - 65, by omega⟩
    rwa [Nat.add_sub_cancel' bounds.1, Char.ofNat_toNat] at letter
  · by_cases kelvin : c.toNat = 0x212A
    · simp only [lowered, upper, kelvin, if_true, if_false]
      decide
    · by_cases dotted : c.toNat = 0x130
      · simp only [lowered, upper, dotted, if_true, if_false]
        decide
      · have plain : lowered c = [c] := by simp only [lowered, upper, kelvin, dotted, if_false]
        rw [plain, List.flatMap_singleton, plain]

theorem toLowerCase_toLowerCase (text : String) : toLowerCase (toLowerCase text) = toLowerCase text := by
  simp only [toLowerCase, String.toList_ofList, List.flatMap_assoc, lowered_lowered]

end Lowering

section Occurrences

variable {kind : FailureKind} {data : ResponseData}

theorem lower_chars (kind : FailureKind) (data : ResponseData) :
    (kind.chars data).flatMap lowered = kind.lower.chars data := by
  obtain ⟨pieces, marked⟩ := kind
  simp only [FailureKind.chars, FailureKind.lower, List.flatMap_map, List.flatMap_assoc]
  apply List.flatMap_congr
  intro piece member
  rw [List.flatMap_cons, lowered_punctuation _ (marked piece member), List.singleton_append]
  cases piece.2 with
  | own text => rfl
  | datum slot =>
    have plain : (data.text slot).flatMap lowered = (data.text slot).flatMap fun c => [c] :=
      List.flatMap_congr fun c within => lowered_digit c (data.digits slot c within)
    rw [Piece.lower, Piece.chars, plain, List.flatMap_singleton']

def rejection (kind : FailureKind) (data : ResponseData) : String :=
  "Submission failed: " ++ (kind.response data).json

def loweredFront : List Char := "submission failed: ".toList

theorem lower_message (kind : FailureKind) (data : ResponseData) :
    (toLowerCase (rejection kind data)).toList =
      loweredFront ++ kind.lower.chars data := by
  have front : "Submission failed: ".toList.flatMap lowered = loweredFront := by decide
  unfold rejection
  simp only [toLowerCase, FailureKind.response, String.toList_append, String.toList_ofList,
    List.flatMap_append, front, lower_chars]

theorem infix_chars {pattern : String} (clean : ∀ mark ∈ punctuation, mark ∉ pattern.toList)
    (front : List Char) : pattern.toList <:+: front ++ kind.chars data ↔
      pattern.toList <:+: front ∨ kind.States pattern ∨ kind.Holds data pattern := by
  obtain ⟨pieces, marked⟩ := kind
  simp only [FailureKind.chars, FailureKind.States, FailureKind.Holds]
  induction pieces generalizing front with
  | nil => simp
  | cons piece pieces ih =>
    obtain ⟨mark, piece⟩ := piece
    have unmarked := clean mark (marked _ (.head _))
    rw [List.flatMap_cons, List.cons_append, infix_separated unmarked,
      ih (piece.chars data) fun other member => marked other (.tail _ member)]
    cases piece with
    | own text => simp [Piece.chars, Piece.states, Piece.holds, occurs_iff, or_assoc]
    | datum slot => simp [Piece.chars, Piece.states, Piece.holds, occurs_iff, or_left_comm]

-- A pattern that data do not hold and that does not stand before the response.
structure Worded (pattern : String) : Prop where
  clean : ∀ mark ∈ punctuation, mark ∉ pattern.toList
  wordy : ∃ c ∈ pattern.toList, c ∉ hexDigits
  apart : ¬ pattern.toList <:+: loweredFront

theorem Worded.not_held {pattern : String} (worded : Worded pattern) : ¬ kind.Holds data pattern := by
  rintro ⟨⟨mark, piece⟩, _, held⟩
  cases piece with
  | own text => cases held
  | datum slot =>
    obtain ⟨c, member, other⟩ := worded.wordy
    exact other (data.digits slot c ((occurs_iff.mp held).subset member))

theorem includes_worded {pattern : String} (worded : Worded pattern) :
    includes (toLowerCase (rejection kind data)) pattern = true ↔
      kind.lower.States pattern := by
  rw [includes, occurs_iff, lower_message, infix_chars worded.clean]
  simp only [worded.apart, worded.not_held, false_or, or_false]

instance (pattern : String) : Decidable (Worded pattern) :=
  decidable_of_iff ((∀ mark ∈ punctuation, mark ∉ pattern.toList) ∧ (∃ c ∈ pattern.toList, c ∉ hexDigits) ∧
      ¬ occurs pattern.toList loweredFront = true)
    ⟨fun ⟨clean, wordy, apart⟩ => ⟨clean, wordy, fun found => apart (occurs_iff.mpr found)⟩,
      fun worded => ⟨worded.clean, worded.wordy, fun found => worded.apart (occurs_iff.mp found)⟩⟩

theorem malformed_worded : ∀ pattern ∈ malformedXdrPatterns, Worded pattern := by decide +kernel

theorem authFailure_worded : ∀ pattern ∈ authFailurePatterns, Worded pattern := by decide +kernel

theorem network_worded : ∀ pattern ∈ retryableNetworkPatterns, pattern ∈ httpCodes ∨ Worded pattern := by
  decide +kernel

theorem code_apart : ∀ code ∈ httpCodes, code ∈ retryableNetworkPatterns ∧
    (∀ mark ∈ punctuation, mark ∉ code.toList) ∧ ¬ code.toList <:+: loweredFront := by
  decide +kernel

theorem matchesPatterns_worded {patterns : List String} (worded : ∀ pattern ∈ patterns, Worded pattern) :
    matchesPatterns (toLowerCase (rejection kind data)) patterns = true ↔
      ∃ pattern ∈ patterns, kind.lower.States pattern := by
  rw [matchesPatterns, toLowerCase_toLowerCase, List.any_eq_true]
  constructor
  · rintro ⟨pattern, member, found⟩
    exact ⟨pattern, member, (includes_worded (worded pattern member)).mp found⟩
  · rintro ⟨pattern, member, stated⟩
    exact ⟨pattern, member, (includes_worded (worded pattern member)).mpr stated⟩

theorem holds_lower (pattern : String) : kind.lower.Holds data pattern ↔ kind.Holds data pattern := by
  have piecewise (piece : Piece) : piece.lower.holds data pattern = piece.holds data pattern := by
    cases piece <;> rfl
  simp [FailureKind.Holds, FailureKind.lower, piecewise]

theorem matchesPatterns_network :
    matchesPatterns (toLowerCase (rejection kind data))
        retryableNetworkPatterns = true ↔
      (∃ pattern ∈ retryableNetworkPatterns, kind.lower.States pattern) ∨ kind.ShowsCode data := by
  have codes {code : String} (member : code ∈ httpCodes) :
      includes (toLowerCase (rejection kind data)) code = true ↔
        kind.lower.States code ∨ kind.Holds data code := by
    obtain ⟨_, clean, apart⟩ := code_apart code member
    rw [includes, occurs_iff, lower_message, infix_chars clean, holds_lower]
    simp only [apart, false_or]
  rw [matchesPatterns, toLowerCase_toLowerCase, List.any_eq_true]
  constructor
  · rintro ⟨pattern, member, found⟩
    rcases network_worded pattern member with code | worded
    · rcases (codes code).mp found with stated | holds
      · exact .inl ⟨pattern, member, stated⟩
      · exact .inr ⟨pattern, code, holds⟩
    · exact .inl ⟨pattern, member, (includes_worded worded).mp found⟩
  · rintro (⟨pattern, member, stated⟩ | ⟨code, member, holds⟩)
    · refine ⟨pattern, member, ?_⟩
      rcases network_worded pattern member with code | worded
      · exact (codes code).mpr (.inl stated)
      · exact (includes_worded worded).mpr stated
    · exact ⟨code, (code_apart code member).1, (codes member).mpr (.inr holds)⟩

end Occurrences

section Decision

variable {kind : FailureKind} {data data' : ResponseData} {request : TransactionRequest} {attempt : Nat}
  {sequence : Int} {reset : Response}

def Early (kind : FailureKind) : Prop :=
  (∃ pattern ∈ malformedXdrPatterns, kind.lower.States pattern) ∨
    (∃ pattern ∈ authFailurePatterns, kind.lower.States pattern) ∨
    kind.lower.States "simulation failed" ∨ kind.lower.States "bad_seq" ∨
    kind.lower.States "transaction failed"

instance (kind : FailureKind) : Decidable (Early kind) :=
  inferInstanceAs (Decidable (_ ∨ _))

theorem retried_caught (message : String) (txHash : Option String) :
    retried (caught message txHash) = some (classifySubmissionFailure message txHash).retryable := by
  unfold caught throwClassifiedSubmissionFailure
  split
  · next again => rw [again]; rfl
  · next final => rw [Bool.not_eq_true] at final; rw [final]; rfl

theorem included_front {pattern : String} (front : pattern.toList <:+: loweredFront)
    (kind : FailureKind) (data : ResponseData) :
    includes (toLowerCase (rejection kind data)) pattern = true := by
  unfold includes
  rw [occurs_iff, lower_message]
  exact List.infix_append_of_infix_left front

theorem rejection_submitted (kind : FailureKind) (data : ResponseData) :
    includes (toLowerCase (rejection kind data)) "submission failed" = true :=
  included_front (by decide +kernel) kind data

theorem classify_rejection (kind : FailureKind) (data : ResponseData) :
    (classifySubmissionFailure (rejection kind data) none).retryable =
      if matchesPatterns (toLowerCase (rejection kind data)) malformedXdrPatterns then false
      else if matchesPatterns (toLowerCase (rejection kind data)) authFailurePatterns then false
      else if includes (toLowerCase (rejection kind data)) "simulation failed" then false
      else if includes (toLowerCase (rejection kind data)) "tx_bad_seq" ||
        includes (toLowerCase (rejection kind data)) "bad_seq" then true
      else if includes (toLowerCase (rejection kind data)) "transaction failed" then false
      else matchesPatterns (toLowerCase (rejection kind data)) retryableNetworkPatterns := by
  simp only [classifySubmissionFailure, rejection_submitted, if_true, apply_ite SubmissionFailure.retryable]
  simp

theorem sequence_worded : Worded "tx_bad_seq" ∧ Worded "bad_seq" := by decide +kernel

theorem phrases_worded : Worded "simulation failed" ∧ Worded "transaction failed" := by decide +kernel

theorem includes_within {text part pattern : String} (within : part.toList <:+: pattern.toList)
    (found : includes text pattern = true) : includes text part = true :=
  occurs_iff.mpr (within.trans (occurs_iff.mp found))

theorem badSequence_iff (text : String) : badSequence text = true ↔ includes text "bad_seq" = true := by
  unfold badSequence
  rw [Bool.or_eq_true]
  exact ⟨fun found => found.elim (includes_within (by decide +kernel)) id, .inr⟩

theorem early_iff (kind : FailureKind) (data : ResponseData) : Early kind ↔
    matchesPatterns (toLowerCase (rejection kind data)) malformedXdrPatterns = true ∨
    matchesPatterns (toLowerCase (rejection kind data)) authFailurePatterns = true ∨
    includes (toLowerCase (rejection kind data)) "simulation failed" = true ∨
    badSequence (toLowerCase (rejection kind data)) = true ∨
    includes (toLowerCase (rejection kind data)) "transaction failed" = true := by
  have sequence : badSequence (toLowerCase (rejection kind data)) = true ↔ kind.lower.States "bad_seq" :=
    (badSequence_iff _).trans (includes_worded sequence_worded.2)
  exact or_congr (matchesPatterns_worded malformed_worded).symm
    (or_congr (matchesPatterns_worded authFailure_worded).symm
      (or_congr (includes_worded phrases_worded.1).symm
        (or_congr sequence.symm (includes_worded phrases_worded.2).symm)))

theorem settled_iff (kind : FailureKind) : kind.Settled ↔
    Early kind ∨ ∃ pattern ∈ retryableNetworkPatterns, kind.lower.States pattern := by
  simp only [FailureKind.Settled, Early, settlingPatterns, List.mem_append, List.mem_cons, List.not_mem_nil,
    or_false, or_and_right, exists_or, exists_eq_left, or_assoc]

theorem early_same (early : Early kind) (data data' : ResponseData) :
    (classifySubmissionFailure (rejection kind data) none).retryable =
      (classifySubmissionFailure (rejection kind data') none).retryable := by
  have patterns {patterns : List String} (worded : ∀ pattern ∈ patterns, Worded pattern) :
      matchesPatterns (toLowerCase (rejection kind data)) patterns =
        matchesPatterns (toLowerCase (rejection kind data')) patterns :=
    Bool.eq_iff_iff.mpr ((matchesPatterns_worded worded).trans (matchesPatterns_worded worded).symm)
  have phrase {pattern : String} (worded : Worded pattern) :
      includes (toLowerCase (rejection kind data)) pattern =
        includes (toLowerCase (rejection kind data')) pattern :=
    Bool.eq_iff_iff.mpr ((includes_worded worded).trans (includes_worded worded).symm)
  have said := (early_iff kind data').mp early
  rw [classify_rejection, classify_rejection, patterns malformed_worded, patterns authFailure_worded,
    phrase phrases_worded.1, phrase sequence_worded.1, phrase sequence_worded.2, phrase phrases_worded.2]
  unfold badSequence at said
  split_ifs with malformed auth simulation sequence failed
  · rfl
  · rfl
  · rfl
  · rfl
  · rfl
  · simp [malformed, auth, simulation, sequence, failed] at said

theorem late_decision (late : ¬ Early kind) (data : ResponseData) :
    (classifySubmissionFailure (rejection kind data) none).retryable = true ↔
      (∃ pattern ∈ retryableNetworkPatterns, kind.lower.States pattern) ∨ kind.ShowsCode data := by
  rw [early_iff kind data] at late
  simp only [not_or, Bool.not_eq_true] at late
  obtain ⟨malformed, auth, simulation, sequence, failed⟩ := late
  unfold badSequence at sequence
  have value : (classifySubmissionFailure (rejection kind data) none).retryable =
      matchesPatterns (toLowerCase (rejection kind data)) retryableNetworkPatterns := by
    rw [classify_rejection]
    simp only [malformed, auth, simulation, sequence, failed, Bool.false_eq_true, if_false]
  exact (Bool.eq_iff_iff.mp value).trans matchesPatterns_network

theorem includes_json {pattern : String} (worded : Worded pattern) :
    includes (kind.response data).json pattern = true ↔ kind.States pattern := by
  have nonempty : ¬ pattern.toList <:+: [] := by
    intro within
    obtain ⟨c, member, _⟩ := worded.wordy
    cases within.subset member
  have chars : pattern.toList <:+: [] ++ kind.chars data ↔
      pattern.toList <:+: [] ∨ kind.States pattern ∨ kind.Holds data pattern :=
    infix_chars worded.clean []
  unfold includes FailureKind.response
  rw [occurs_iff, String.toList_ofList, ← List.nil_append (kind.chars data), chars]
  simp only [nonempty, worded.not_held, false_or, or_false]

theorem badSequence_json (kind : FailureKind) (data : ResponseData) :
    badSequence (kind.response data).json = true ↔ kind.States "bad_seq" :=
  (badSequence_iff _).trans (includes_json sequence_worded.2)

theorem early_of_badSequence (stated : kind.States "bad_seq") : Early kind := by
  have plain : "bad_seq".toList.flatMap lowered = "bad_seq".toList := by decide +kernel
  obtain ⟨⟨mark, piece⟩, member, found⟩ := stated
  cases piece with
  | datum slot => cases found
  | own text =>
    obtain ⟨front, back, rfl⟩ := occurs_iff.mp found
    refine .inr (.inr (.inr (.inl ⟨_, List.mem_map.mpr ⟨_, member, rfl⟩, ?_⟩)))
    refine occurs_iff.mpr ⟨front.flatMap lowered, back.flatMap lowered, ?_⟩
    rw [List.flatMap_append, List.flatMap_append, plain]

theorem settledBy_response (kind : FailureKind) (data : ResponseData) :
    settledBy request attempt sequence reset (kind.response data) =
      if badSequence (kind.response data).json then
        executeTxJob request attempt (.resetRejected (rejection kind data)) reset
      else caught (rejection kind data) none := by
  have sent : executeTxJob request attempt (.send sequence) (.sent (kind.response data)) =
      if badSequence (kind.response data).json then .resetRejected (rejection kind data)
      else caught (rejection kind data) none := by
    have error : (kind.response data).status = "ERROR" := rfl
    rw [executeTxJob, if_pos error]
    rfl
  unfold settledBy
  rw [sent]
  by_cases bad : badSequence (kind.response data).json = true
  · rw [if_pos bad, if_pos bad]
  · rw [if_neg bad, if_neg bad]
    rfl

theorem reset_same (early : Early kind) (data data' : ResponseData) :
    retried (executeTxJob request attempt (.resetRejected (rejection kind data)) reset) =
      retried (executeTxJob request attempt (.resetRejected (rejection kind data')) reset) := by
  cases reset with
  | done => simp only [executeTxJob, retried_caught, early_same early data data']
  | failed message => rfl
  | account | cached | notSimulated | sent | status => rfl

/-- Two rejections of one kind are decided alike exactly when the text of the kind settles the decision,
or both of their data show an HTTP code, or neither does. -/
theorem same_decision_iff (kind : FailureKind) (data data' : ResponseData) (request : TransactionRequest)
    (attempt : Nat) (sequence : Int) (reset : Response) :
    retried (settledBy request attempt sequence reset (kind.response data)) =
        retried (settledBy request attempt sequence reset (kind.response data')) ↔
      kind.Settled ∨ (kind.ShowsCode data ↔ kind.ShowsCode data') := by
  rw [settledBy_response, settledBy_response, settled_iff]
  by_cases early : Early kind
  · have alike : badSequence (kind.response data).json = badSequence (kind.response data').json :=
      Bool.eq_iff_iff.mpr ((badSequence_json kind data).trans (badSequence_json kind data').symm)
    refine iff_of_true ?_ (.inl (.inl early))
    rw [alike]
    split_ifs
    · exact reset_same early data data'
    · rw [retried_caught, retried_caught, early_same early data data']
  · have unreset (data : ResponseData) : ¬ badSequence (kind.response data).json = true := fun bad =>
      early (early_of_badSequence ((badSequence_json kind data).mp bad))
    rw [if_neg (unreset data), if_neg (unreset data'), retried_caught, retried_caught, Option.some_inj,
      Bool.eq_iff_iff, late_decision early, late_decision early]
    by_cases network : ∃ pattern ∈ retryableNetworkPatterns, kind.lower.States pattern
    · simp only [network, true_or, or_true]
    · simp only [network, early, false_or]

end Decision

section Sample

def feeRejection : FailureKind where
  pieces :=
    [('{', .own "\"status\"".toList), (':', .own []), ('"', .own "ERROR".toList), ('"', .own []),
      (',', .own "\"hash\"".toList), (':', .own []), ('"', .datum 0), ('"', .own []),
      (',', .own "\"latestLedger\"".toList), (':', .datum 1), (',', .own "\"errorResult\"".toList),
      (':', .own []), ('{', .own "\"name\"".toList), (':', .own []),
      ('"', .own "txInsufficientFee".toList), ('"', .own []), ('}', .own []), ('}', .own [])]
  marked := by decide +kernel

def hashed (start : List Char) (digits : ∀ c ∈ start, c ∈ hexDigits) : ResponseData where
  text slot := if slot = 0 then start ++ List.replicate 61 'a' else ['7', '1', '7']
  digits := by
    intro slot
    split_ifs
    · intro c member
      rcases List.mem_append.mp member with early | late
      · exact digits c early
      · rw [List.eq_of_mem_replicate late]
        decide
    · decide

def quietHash : ResponseData := hashed ['a', 'a', 'a'] (by decide)

def loudHash : ResponseData := hashed ['5', '0', '0'] (by decide)

/-- One hash makes the queue give up, the other one makes it try again. -/
theorem decided_by_hash :
    retried (settledBy sampleRequest 1 0 .done (feeRejection.response quietHash)) ≠
      retried (settledBy sampleRequest 1 0 .done (feeRejection.response loudHash)) := by
  have late : ¬ Early feeRejection := by decide +kernel
  have unnetworked : ¬ ∃ pattern ∈ retryableNetworkPatterns, feeRejection.lower.States pattern := by
    decide +kernel
  have quiet : ¬ feeRejection.ShowsCode quietHash := by decide +kernel
  have loud : feeRejection.ShowsCode loudHash := by decide +kernel
  have unreset (data : ResponseData) : ¬ badSequence (feeRejection.response data).json = true := fun bad =>
    late (early_of_badSequence ((badSequence_json feeRejection data).mp bad))
  rw [settledBy_response, settledBy_response, if_neg (unreset _), if_neg (unreset _), retried_caught,
    retried_caught, ne_eq, Option.some_inj, Bool.eq_iff_iff, late_decision late, late_decision late]
  simp only [unnetworked, quiet, loud, false_or, iff_true, not_false_eq_true]

end Sample

end Delego.Wallet.TxQueue
