import Delego.Shared.Number
import Delego.Shared.Run
import Delego.Shared.Total
import Mathlib.Data.List.Dedup
import Mathlib.Logic.Function.Basic

set_option autoImplicit false

namespace Delego.Payments.Arbiters

open Shared

structure ArbiterSignature where
  escrowId : String
  arbiter : String
  signature : String
  signedPayloadHash : String
  submittedAt : Nat
  deriving DecidableEq

inductive Status where
  | collecting
  | thresholdMet
  | submitted
  | resolved
  deriving DecidableEq

structure DisputeResolutionState where
  escrowId : String
  threshold : Number
  signatures : List ArbiterSignature
  status : Status
  deriving DecidableEq

def Status.text : Status → String
  | .collecting => "collecting"
  | .thresholdMet => "threshold_met"
  | .submitted => "submitted"
  | .resolved => "resolved"

def Status.closed (status : Status) : Bool := status = .submitted || status = .resolved

def defaultThreshold (arbiterThreshold : Option String) : Number :=
  match arbiterThreshold with
  | none => .finite 2
  | some threshold => .ofText threshold

def reaches (count : Nat) : Number → Bool
  | .nan => false
  | .infinite negative => negative
  | .finite threshold => threshold ≤ count

-- The 16-bit units of a string.
def charCodes (text : String) : List Nat :=
  text.toList.flatMap fun c =>
    if c.toNat < 0x10000 then [c.toNat]
    else [0xD800 + (c.toNat - 0x10000) / 0x400, 0xDC00 + (c.toNat - 0x10000) % 0x400]

def computePayloadHash (escrowId arbiter signature : String) : String :=
  let raw := escrowId ++ ":" ++ arbiter ++ ":" ++ signature
  let h := (charCodes raw).foldl (fun h code => (31 * h + code) % 2 ^ 32) 0
  Text.padStart 8 (String.ofList (Nat.toDigits 16 h))

/-- A call of `collectArbiterSignature` waits for the answer of the wallet service, or for the text of a
refusal, or has returned. -/
inductive Call where
  | submitting (escrowId : String)
  | reading (escrowId : String) (status : Nat)
  | returned (result : Except String DisputeResolutionState)

inductive Response where
  | ok
  | refused (status : Nat)
  | failed (message : String)

structure System where
  disputes : String → Option DisputeResolutionState
  calls : List Call

inductive Input where
  | collect (escrowId arbiter signature : String) (now : Nat)
  | respond (id : Nat) (response : Response)
  | read (id : Nat) (body : Except String String)

inductive Effect where
  | submitted (escrowId : String) (signatures : List ArbiterSignature)
  | accepted (escrowId : String)
  deriving DecidableEq

section Steps

variable (threshold : Number)

def collectArbiterSignature (disputes : String → Option DisputeResolutionState)
    (escrowId arbiter signature : String) (now : Nat) : Except String DisputeResolutionState :=
  if escrowId = "" ∨ arbiter = "" ∨ signature = "" then
    .error "escrowId, arbiter, and signature are required"
  else
    let state := (disputes escrowId).getD ⟨escrowId, threshold, [], .collecting⟩
    if state.signatures.any fun s => s.arbiter = arbiter then
      .error ("Arbiter " ++ arbiter ++ " has already submitted a signature for escrow " ++ escrowId)
    else if state.status.closed then
      .error ("Dispute for escrow " ++ escrowId ++ " is already " ++ state.status.text)
    else
      .ok { state with
        signatures := state.signatures ++
          [⟨escrowId, arbiter, signature, computePayloadHash escrowId arbiter signature, now⟩] }

def System.finish (system : System) (id : Nat) (escrowId : String) (status : Status)
    (result : DisputeResolutionState → Except String DisputeResolutionState) : System :=
  match system.disputes escrowId with
  | some state =>
    let state := { state with status }
    { disputes := Function.update system.disputes escrowId (some state)
      calls := system.calls.set id (.returned (result state)) }
  | none => system

/-- The steps of the calls. Between its checks and the request to the wallet service a call does not
wait, and the status on the way is not seen. -/
def step (system : System) : Input → Option Effect × System
  | .collect escrowId arbiter signature now =>
    match collectArbiterSignature threshold system.disputes escrowId arbiter signature now with
    | .error message => (none, { system with calls := system.calls ++ [.returned (.error message)] })
    | .ok state =>
      if reaches state.signatures.length state.threshold then
        (some (.submitted escrowId state.signatures),
          { disputes := Function.update system.disputes escrowId (some { state with status := .submitted })
            calls := system.calls ++ [.submitting escrowId] })
      else
        (none,
          { disputes := Function.update system.disputes escrowId (some state)
            calls := system.calls ++ [.returned (.ok state)] })
  | .respond id response =>
    match system.calls[id]? with
    | some (.submitting escrowId) =>
      match response with
      | .ok => (some (.accepted escrowId), system.finish id escrowId .resolved .ok)
      | .refused status => (none, { system with calls := system.calls.set id (.reading escrowId status) })
      | .failed message => (none, system.finish id escrowId .thresholdMet fun _ => .error message)
    | _ => (none, system)
  | .read id body =>
    match system.calls[id]? with
    | some (.reading escrowId status) =>
      let message := match body with
        | .ok body => "Wallet service error: " ++ toString status ++ " " ++ body
        | .error message => message
      (none, system.finish id escrowId .thresholdMet fun _ => .error message)
    | _ => (none, system)

abbrev ArbiterReceipt := Receipt System Input (Option Effect)

def final (inputs : List Input) : System := Run.final (step threshold) ⟨fun _ => none, []⟩ inputs

def history (inputs : List Input) : List ArbiterReceipt :=
  Run.history (step threshold) ⟨fun _ => none, []⟩ inputs

def Call.inFlight : Call → Option String
  | .submitting escrowId | .reading escrowId _ => some escrowId
  | .returned _ => none

def successes (escrowId : String) (past : List ArbiterReceipt) : List ArbiterReceipt :=
  past.filter fun receipt => receipt.output = some (.accepted escrowId)

structure Collected (inputs : List Input) : Prop where
  distinct : ∀ escrowId state, (final threshold inputs).disputes escrowId = some state →
    (state.signatures.map ArbiterSignature.arbiter).Nodup
  single : ∀ escrowId, ((final threshold inputs).calls.filter fun call =>
    call.inFlight = some escrowId).length ≤ 1
  once : ∀ escrowId, (successes escrowId (history threshold inputs)).length ≤ 1
  quorum : ∀ receipt ∈ history threshold inputs, ∀ escrowId signatures,
    receipt.output = some (.submitted escrowId signatures) →
      reaches (signatures.map ArbiterSignature.arbiter).dedup.length threshold = true
  closed : ∀ receipt ∈ history threshold inputs, ∀ escrowId state,
    receipt.before.disputes escrowId = some state → state.status.closed = true →
      ∃ after, receipt.after.disputes escrowId = some after ∧ after.signatures = state.signatures

end Steps

section Collecting

variable {threshold : Number} {past : List ArbiterReceipt} {receipt : ArbiterReceipt} {system : System}
  {escrowId arbiter signature : String} {state : DisputeResolutionState} {now : Nat}

def flying (escrowId : String) (call : Call) : Nat := if call.inFlight = some escrowId then 1 else 0

structure Consistent (threshold : Number) (state : DisputeResolutionState) (inFlight succeeded : Nat) :
    Prop where
  distinct : (state.signatures.map ArbiterSignature.arbiter).Nodup
  threshold : state.threshold = threshold
  flying : inFlight = if state.status = .submitted then 1 else 0
  succeeded : succeeded = if state.status = .resolved then 1 else 0

def Sound (threshold : Number) (escrowId : String) (past : List ArbiterReceipt) (system : System) : Prop :=
  match system.disputes escrowId with
  | some state => Consistent threshold state (total (flying escrowId) system.calls)
      (successes escrowId past).length
  | none => total (flying escrowId) system.calls = 0 ∧ (successes escrowId past).length = 0

theorem Sound.consistent (sound : Sound threshold escrowId past system)
    (held : system.disputes escrowId = some state) :
    Consistent threshold state (total (flying escrowId) system.calls) (successes escrowId past).length := by
  simpa only [Sound, held] using sound

theorem Sound.initial (sound : Sound threshold escrowId past system) :
    Consistent threshold ((system.disputes escrowId).getD ⟨escrowId, threshold, [], .collecting⟩)
      (total (flying escrowId) system.calls) (successes escrowId past).length := by
  unfold Sound at sound
  cases held : system.disputes escrowId with
  | some state =>
    simp only [held] at sound
    exact sound
  | none =>
    simp only [held] at sound
    exact ⟨List.nodup_nil, rfl, sound.1, sound.2⟩

theorem successes_silent (silent : receipt.output ≠ some (.accepted escrowId)) :
    successes escrowId (receipt :: past) = successes escrowId past := by
  simp [successes, silent]

theorem Sound.changed {calls : List Call} (sound : ∀ escrowId, Sound threshold escrowId past system)
    (own : Consistent threshold state (total (flying escrowId) calls)
      (successes escrowId (receipt :: past)).length)
    (others : ∀ other, other ≠ escrowId →
      total (flying other) calls = total (flying other) system.calls ∧
        receipt.output ≠ some (.accepted other)) :
    ∀ other, Sound threshold other (receipt :: past)
      ⟨Function.update system.disputes escrowId (some state), calls⟩ := by
  intro other
  by_cases same : other = escrowId
  · subst same
    simp only [Sound, Function.update_self]
    exact own
  · obtain ⟨flights, silent⟩ := others other same
    have before := sound other
    simp only [Sound, Function.update_of_ne same, flights, successes_silent silent] at before ⊢
    exact before

theorem collectArbiterSignature_ok
    (collected : collectArbiterSignature threshold system.disputes escrowId arbiter signature now =
      .ok state) :
    ∃ before, before = (system.disputes escrowId).getD ⟨escrowId, threshold, [], .collecting⟩ ∧
      before.status.closed = false ∧ state.status = before.status ∧ state.threshold = before.threshold ∧
      ∃ sig : ArbiterSignature, sig.arbiter = arbiter ∧ state.signatures = before.signatures ++ [sig] ∧
        ∀ s ∈ before.signatures, s.arbiter ≠ arbiter := by
  unfold collectArbiterSignature at collected
  split at collected
  · cases collected
  · dsimp only at collected
    split at collected
    · cases collected
    · next fresh =>
      split at collected
      · cases collected
      · next opened =>
        cases collected
        refine ⟨_, rfl, by simpa using opened, rfl, rfl, _, rfl, rfl, ?_⟩
        intro s member same
        exact fresh (List.any_eq_true.mpr ⟨s, member, decide_eq_true same⟩)

theorem collected_signatures (sound : Sound threshold escrowId past system)
    (collected : collectArbiterSignature threshold system.disputes escrowId arbiter signature now =
      .ok state) :
    (state.signatures.map ArbiterSignature.arbiter).Nodup ∧ state.threshold = threshold ∧
      state.status ≠ .resolved ∧ state.status ≠ .submitted ∧
      total (flying escrowId) system.calls = 0 ∧ (successes escrowId past).length = 0 := by
  obtain ⟨before, rfl, opened, status, limit, sig, rfl, signatures, fresh⟩ :=
    collectArbiterSignature_ok collected
  obtain ⟨distinct, same, flights, succeeded⟩ := sound.initial
  simp only [Status.closed, Bool.or_eq_false_iff, decide_eq_false_iff_not] at opened
  refine ⟨?_, limit.trans same, ?_, ?_, ?_, ?_⟩
  · rw [signatures, List.map_append]
    refine List.nodup_append.mpr ⟨distinct, List.nodup_singleton _, ?_⟩
    intro other member new own equal
    obtain ⟨s, present, rfl⟩ := List.mem_map.mp member
    exact fresh s present (equal.trans (List.mem_singleton.mp own))
  · rw [status]
    exact opened.2
  · rw [status]
    exact opened.1
  · rw [flights, if_neg opened.1]
  · rw [succeeded, if_neg opened.2]

theorem flying_returned (result : Except String DisputeResolutionState) :
    flying escrowId (.returned result) = 0 := rfl

theorem flying_other {other : String} {call : Call} (apart : other ≠ escrowId)
    (flies : call.inFlight = some escrowId) : flying other call = 0 :=
  if_neg fun same => apart (Option.some.inj (same.symm.trans flies))

theorem flying_own {call : Call} (flies : call.inFlight = some escrowId) : flying escrowId call = 1 :=
  if_pos flies

theorem Sound.quiet {calls : List Call} (sound : ∀ escrowId, Sound threshold escrowId past system)
    (silent : receipt.output = none)
    (flights : ∀ escrowId, total (flying escrowId) calls = total (flying escrowId) system.calls) :
    ∀ escrowId, Sound threshold escrowId (receipt :: past) { system with calls } := by
  intro escrowId
  have before := sound escrowId
  have unsaid : receipt.output ≠ some (.accepted escrowId) := by
    rw [silent]
    nofun
  simp only [Sound, flights, successes_silent unsaid] at before ⊢
  exact before

theorem Sound.in_flight {id : Nat} {call : Call} (sound : Sound threshold escrowId past system)
    (found : system.calls[id]? = some call) (flies : call.inFlight = some escrowId) :
    ∃ state, system.disputes escrowId = some state ∧ state.status = .submitted ∧
      Consistent threshold state 1 (successes escrowId past).length ∧
      total (flying escrowId) system.calls = 1 := by
  have own : 0 < total (flying escrowId) system.calls := by
    have moved := total_set (flying escrowId) (.returned (.error "")) found
    rw [flying_own flies, flying_returned] at moved
    omega
  cases held : system.disputes escrowId with
  | none =>
    simp only [Sound, held] at sound
    omega
  | some state =>
    have consistent := sound.consistent held
    have submitted : state.status = .submitted := by
      by_contra other
      have flights := consistent.flying
      rw [if_neg other] at flights
      omega
    have one : total (flying escrowId) system.calls = 1 := by
      rw [consistent.flying, if_pos submitted]
    rw [one] at consistent
    exact ⟨state, rfl, submitted, consistent, one⟩

theorem Sound.finish {id : Nat} {call : Call} {status : Status}
    {result : DisputeResolutionState → Except String DisputeResolutionState}
    (sound : ∀ escrowId, Sound threshold escrowId past system) (found : system.calls[id]? = some call)
    (flies : call.inFlight = some escrowId) (open' : status ≠ .submitted)
    (told : receipt.output = if status = .resolved then some (.accepted escrowId) else none) :
    ∀ other, Sound threshold other (receipt :: past) (system.finish id escrowId status result) := by
  have moved (other : String) (result : Except String DisputeResolutionState) :=
    total_set (flying other) (.returned result) found
  obtain ⟨state, held, submitted, ⟨distinct, limit, _, succeeded⟩, flights⟩ :=
    (sound escrowId).in_flight found flies
  rw [submitted, if_neg nofun] at succeeded
  simp only [System.finish, held]
  refine Sound.changed sound ⟨distinct, limit, ?_, ?_⟩ ?_
  · have moved := moved escrowId (result { state with status })
    rw [flying_own flies, flying_returned] at moved
    rw [if_neg open']
    omega
  · by_cases resolved : status = .resolved
    · rw [if_pos resolved] at told ⊢
      simp only [successes, told, List.filter_cons_of_pos, decide_true, List.length_cons] at succeeded ⊢
      omega
    · rw [if_neg resolved] at told ⊢
      rw [successes_silent (by rw [told]; nofun)]
      exact succeeded
  · intro other apart
    refine ⟨?_, ?_⟩
    · have moved := moved other (result { state with status })
      rw [flying_other apart flies, flying_returned] at moved
      omega
    · rw [told]
      split
      · intro same
        exact apart (Effect.accepted.inj (Option.some.inj same)).symm
      · nofun

theorem Sound.collect (sound : ∀ escrowId, Sound threshold escrowId past system)
    (escrowId arbiter signature : String) (now : Nat) : ∀ other,
    Sound threshold other
      (Run.observe (step threshold) system (.collect escrowId arbiter signature now) :: past)
      (step threshold system (.collect escrowId arbiter signature now)).2 := by
  have returned (result : Except String DisputeResolutionState) (escrowId : String) :
      total (flying escrowId) (system.calls ++ [.returned result]) =
        total (flying escrowId) system.calls := by
    rw [total_append, flying_returned, Nat.add_zero]
  simp only [Run.observe, step]
  cases collected : collectArbiterSignature threshold system.disputes escrowId arbiter signature now with
  | error message => exact Sound.quiet sound rfl (returned _)
  | ok state =>
    obtain ⟨distinct, limit, unresolved, unsubmitted, flights, succeeded⟩ :=
      collected_signatures (sound escrowId) collected
    dsimp only
    split
    · refine Sound.changed sound ⟨distinct, limit, ?_, ?_⟩ ?_
      · rw [total_append, flights, flying_own rfl]
        rfl
      · refine (congrArg List.length (successes_silent ?_)).trans (succeeded.trans rfl)
        simp
      · intro other apart
        rw [total_append, flying_other apart rfl]
        exact ⟨rfl, by simp⟩
    · refine Sound.changed sound ⟨distinct, limit, ?_, ?_⟩ ?_
      · rw [returned, flights, if_neg unsubmitted]
      · rw [if_neg unresolved]
        refine (congrArg List.length (successes_silent ?_)).trans succeeded
        simp
      · intro other _
        exact ⟨returned _ other, by simp⟩

theorem step_sound (sound : ∀ escrowId, Sound threshold escrowId past system) (input : Input) :
    ∀ escrowId, Sound threshold escrowId (Run.observe (step threshold) system input :: past)
      (step threshold system input).2 := by
  cases input with
  | collect escrowId arbiter signature now => exact Sound.collect sound escrowId arbiter signature now
  | respond id response =>
    cases found : system.calls[id]? with
    | none =>
      simp only [Run.observe, step, found]
      exact Sound.quiet sound rfl fun _ => rfl
    | some call =>
      cases call with
      | submitting escrowId =>
        simp only [Run.observe, step, found]
        cases response with
        | ok => exact Sound.finish sound found rfl (by decide) rfl
        | refused status =>
          refine Sound.quiet sound rfl fun other => ?_
          have moved := total_set (flying other) (.reading escrowId status) found
          have same : flying other (.reading escrowId status) = flying other (.submitting escrowId) := rfl
          omega
        | failed message => exact Sound.finish sound found rfl (by decide) rfl
      | reading | returned =>
        simp only [Run.observe, step, found]
        exact Sound.quiet sound rfl fun _ => rfl
  | read id body =>
    cases found : system.calls[id]? with
    | none =>
      simp only [Run.observe, step, found]
      exact Sound.quiet sound rfl fun _ => rfl
    | some call =>
      cases call with
      | reading escrowId status =>
        simp only [Run.observe, step, found]
        exact Sound.finish sound found rfl (by decide) rfl
      | submitting | returned =>
        simp only [Run.observe, step, found]
        exact Sound.quiet sound rfl fun _ => rfl

theorem step_quorum (sound : ∀ escrowId, Sound threshold escrowId past system) (input : Input)
    {signatures : List ArbiterSignature}
    (told : (step threshold system input).1 = some (.submitted escrowId signatures)) :
    reaches (signatures.map ArbiterSignature.arbiter).dedup.length threshold = true := by
  cases input with
  | collect escrowId' arbiter signature now =>
    simp only [step] at told
    cases collected : collectArbiterSignature threshold system.disputes escrowId' arbiter signature now with
    | error message => simp [collected] at told
    | ok state =>
      obtain ⟨distinct, limit, _⟩ := collected_signatures (sound escrowId') collected
      simp only [collected] at told
      split at told
      · next reached =>
        cases told
        rw [List.Nodup.dedup distinct, List.length_map, ← limit]
        exact reached
      · cases told
  | respond id response =>
    simp only [step] at told
    split at told
    · cases response with
      | ok | refused | failed => cases told
    · cases told
  | read id body =>
    simp only [step] at told
    split at told
    · cases told
    · cases told

theorem finish_signatures {id : Nat} {other : String} {status : Status}
    {result : DisputeResolutionState → Except String DisputeResolutionState}
    (held : system.disputes escrowId = some state) :
    ∃ after, (system.finish id other status result).disputes escrowId = some after ∧
      after.signatures = state.signatures := by
  unfold System.finish
  cases found : system.disputes other with
  | none => exact ⟨state, held, rfl⟩
  | some state' =>
    by_cases same : escrowId = other
    · subst same
      rw [held] at found
      cases found
      exact ⟨_, Function.update_self .., rfl⟩
    · exact ⟨state, (Function.update_of_ne same ..).trans held, rfl⟩

theorem step_closed (input : Input) (held : system.disputes escrowId = some state)
    (closed : state.status.closed = true) :
    ∃ after, (step threshold system input).2.disputes escrowId = some after ∧
      after.signatures = state.signatures := by
  cases input with
  | collect escrowId' arbiter signature now =>
    simp only [step]
    cases collected : collectArbiterSignature threshold system.disputes escrowId' arbiter signature now with
    | error message => exact ⟨state, held, rfl⟩
    | ok state' =>
      obtain ⟨before, rfl, opened, _⟩ := collectArbiterSignature_ok collected
      have apart : escrowId ≠ escrowId' := by
        rintro rfl
        rw [held, Option.getD_some, closed] at opened
        cases opened
      dsimp only
      split
      · exact ⟨state, (Function.update_of_ne apart ..).trans held, rfl⟩
      · exact ⟨state, (Function.update_of_ne apart ..).trans held, rfl⟩
  | respond id response =>
    simp only [step]
    split
    · cases response with
      | ok => exact finish_signatures held
      | refused status => exact ⟨state, held, rfl⟩
      | failed message => exact finish_signatures held
    · exact ⟨state, held, rfl⟩
  | read id body =>
    simp only [step]
    split
    · exact finish_signatures held
    · exact ⟨state, held, rfl⟩

theorem sound (threshold : Number) (inputs : List Input) : ∀ escrowId,
    Sound threshold escrowId (history threshold inputs) (final threshold inputs) := by
  refine Run.invariant (step threshold) ⟨fun _ => none, []⟩
    (fun past system => ∀ escrowId, Sound threshold escrowId past system) ?_ ?_ inputs
  · intro escrowId
    exact ⟨rfl, rfl⟩
  · intro past system input sound
    exact step_sound sound input

theorem Sound.bounds (sound : Sound threshold escrowId past system) :
    total (flying escrowId) system.calls ≤ 1 ∧ (successes escrowId past).length ≤ 1 := by
  obtain ⟨_, _, flights, succeeded⟩ := sound.initial
  rw [flights, succeeded]
  constructor
  · split <;> decide
  · split <;> decide

end Collecting

/-- Signatures of a dispute come from distinct arbiters, no two submissions of it are in flight and only
one succeeds, each carries a quorum, and a dispute that is submitted or resolved takes no more. -/
theorem arbiter_signatures_collected (arbiterThreshold : Option String) (inputs : List Input) :
    Collected (defaultThreshold arbiterThreshold) inputs := by
  have sound := sound (defaultThreshold arbiterThreshold)
  refine ⟨?_, ?_, ?_, ?_, ?_⟩
  · intro escrowId state held
    exact ((sound inputs escrowId).consistent held).distinct
  · intro escrowId
    rw [← total_filter]
    simp only [decide_eq_true_eq]
    exact (sound inputs escrowId).bounds.1
  · intro escrowId
    exact (sound inputs escrowId).bounds.2
  · intro receipt member escrowId signatures told
    obtain ⟨input, older, _, rfl⟩ := (Run.mem_history _ _).mp member
    exact step_quorum (sound older) input told
  · intro receipt member escrowId state held closed
    obtain ⟨input, older, _, rfl⟩ := (Run.mem_history _ _).mp member
    exact step_closed input held closed

end Delego.Payments.Arbiters
