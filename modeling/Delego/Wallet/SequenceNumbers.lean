import Delego.Shared.Run
import Delego.Wallet.TxQueue

set_option autoImplicit false

namespace Delego.Wallet.TxQueue

open Shared

structure CachedSequence where
  sequence : Int
  expiry : Nat

/-- First attempts that ask for a sequence number of one account, each at the call that it waits for. Times
are in milliseconds. -/
structure SequenceSystem where
  clock : Nat
  cache : Option CachedSequence
  ledgerSequence : Int
  calls : List Phase

inductive Delivery where
  | answered
  | unperformed (message : String)
  -- It is performed, and its answer does not come back.
  | unanswered (message : String)

inductive SequenceInput where
  | call
  | operate (index : Nat) (delivery : Delivery)
  -- A transaction of the account is taken in.
  | advance
  | tick (ms : Nat)

def cacheTtlMs : Nat := 60 * 1000

def SequenceSystem.cachedSequence (system : SequenceSystem) : Option Int :=
  (system.cache.filter fun cached => system.clock < cached.expiry).map CachedSequence.sequence

def Phase.asks : Phase → Bool
  | .account | .cached _ | .save _ => true
  | _ => false

def Phase.sequence : Phase → Option Int
  | .prepare buildSequence => some buildSequence
  | _ => none

def SequenceSystem.answer (system : SequenceSystem) : Phase → Response
  | .account => .account system.ledgerSequence
  | .cached _ => .cached system.cachedSequence
  | _ => .done

def SequenceSystem.cacheAfter (system : SequenceSystem) : Phase → Option CachedSequence
  | .save nextSequence => some ⟨nextSequence, system.clock + cacheTtlMs⟩
  | _ => system.cache

def SequenceSystem.operate (request : TransactionRequest) (system : SequenceSystem) (index : Nat) (phase : Phase) :
    Delivery → SequenceSystem
  | .answered =>
    { system with
      cache := system.cacheAfter phase
      calls := system.calls.set index (executeTxJob request 1 phase (system.answer phase)) }
  | .unperformed message =>
    { system with
      calls := system.calls.set index (executeTxJob request 1 phase (.failed message)) }
  | .unanswered message =>
    { system with
      cache := system.cacheAfter phase
      calls := system.calls.set index (executeTxJob request 1 phase (.failed message)) }

def sequenceStep (request : TransactionRequest) (system : SequenceSystem) : SequenceInput → SequenceSystem
  | .call =>
    { system with
      calls := system.calls ++ [executeTxJob request 1 .key .done] }
  | .operate index delivery =>
    match system.calls[index]? with
    | some phase => if phase.asks then system.operate request index phase delivery else system
    | none => system
  | .advance =>
    { system with
      ledgerSequence := system.ledgerSequence + 1 }
  | .tick ms =>
    { system with
      clock := system.clock + ms }

def sequenceRun (request : TransactionRequest) (clock : Nat) (cache : Option CachedSequence) (ledgerSequence : Int) :
    List SequenceInput → SequenceSystem
  | [] => ⟨clock, cache, ledgerSequence, []⟩
  | input :: earlier => sequenceStep request (sequenceRun request clock cache ledgerSequence earlier) input

def SequenceSystem.returned (system : SequenceSystem) (index : Nat) : Option Int :=
  system.calls[index]?.bind Phase.sequence

def SequenceSystem.Distinct (system : SequenceSystem) : Prop :=
  ∀ index index' sequence, system.returned index = some sequence → system.returned index' = some sequence →
    index = index'

def SequenceSystem.saves (system : SequenceSystem) (index : Nat) (nextSequence : Int) : Prop :=
  system.calls[index]? = some (.save nextSequence)

/-- While the cache is read, no call is about to write it, and the number written last has not expired before
the ledger has come to it. -/
def Settled (system : SequenceSystem) : SequenceInput → Prop
  | .operate index .answered => ∀ ledgerSequence, system.calls[index]? = some (.cached ledgerSequence) →
    (∀ index' nextSequence, ¬ system.saves index' nextSequence) ∧
      ∀ cached ∈ system.cache, system.clock < cached.expiry ∨ cached.sequence ≤ ledgerSequence
  | _ => True

/-- What has been returned is below the cached number, and what is about to be written is above it. -/
structure Issued (system : SequenceSystem) : Prop where
  below : ∀ index sequence, system.returned index = some sequence →
    ∃ cached ∈ system.cache, sequence < cached.sequence
  above : ∀ index nextSequence, system.saves index nextSequence →
    ∀ cached ∈ system.cache, cached.sequence < nextSequence
  alone : ∀ index index' nextSequence nextSequence', system.saves index nextSequence →
    system.saves index' nextSequence' → index = index'
  distinct : system.Distinct

section Steps

variable {request : TransactionRequest} {system system' : SequenceSystem} {index : Nat} {phase phase' : Phase}
  {calls : List Phase}

theorem set_cases {index' : Nat} {found : Phase} (here : (calls.set index phase)[index']? = some found) :
    index' = index ∧ found = phase ∨ index' ≠ index ∧ calls[index']? = some found := by
  by_cases same : index' = index
  · cases same
    obtain ⟨within, set⟩ := List.getElem?_eq_some_iff.mp here
    rw [List.getElem_set_self] at set
    exact .inl ⟨rfl, set.symm⟩
  · rw [List.getElem?_set_ne (Ne.symm same)] at here
    exact .inr ⟨same, here⟩

theorem returned_iff {sequence : Int} :
    system.returned index = some sequence ↔ system.calls[index]? = some (.prepare sequence) := by
  constructor
  · intro returned
    obtain ⟨phase, here, there⟩ := Option.bind_eq_some_iff.mp returned
    cases phase with
    | prepare => cases there; exact here
    | key | reset | account | cached | save | send | resetRejected | poll | record | resetFailed | verify
    | returned | thrown => cases there
  · intro here
    rw [SequenceSystem.returned, here]
    rfl

theorem Issued.fewer (issued : Issued system) (cache : system'.cache = system.cache)
    (saves : ∀ index nextSequence, system'.saves index nextSequence → system.saves index nextSequence)
    (returns : ∀ index sequence, system'.returned index = some sequence →
      system.returned index = some sequence) :
    Issued system' := by
  refine ⟨?_, ?_, ?_, ?_⟩
  · intro index sequence returned
    rw [cache]
    exact issued.below index sequence (returns _ _ returned)
  · intro index nextSequence saving
    rw [cache]
    exact issued.above index nextSequence (saves _ _ saving)
  · intro first second nextSequence nextSequence' saving saving'
    exact issued.alone first second _ _ (saves _ _ saving) (saves _ _ saving')
  · intro first second sequence returned returned'
    exact issued.distinct first second sequence (returns _ _ returned) (returns _ _ returned')

theorem Issued.moved (issued : Issued system) (unsaved : ∀ nextSequence, phase ≠ .save nextSequence)
    (unreturned : ∀ sequence, phase ≠ .prepare sequence) :
    Issued { system with calls := system.calls.set index phase } := by
  apply issued.fewer
  · rfl
  · intro index' nextSequence saving
    rcases set_cases saving with ⟨_, same⟩ | ⟨_, old⟩
    · exact absurd same.symm (unsaved nextSequence)
    · exact old
  · intro index' sequence returned
    rcases set_cases (returned_iff.mp returned) with ⟨_, same⟩ | ⟨_, old⟩
    · exact absurd same.symm (unreturned sequence)
    · exact returned_iff.mpr old

theorem Issued.picked {nextSequence : Int} (issued : Issued system)
    (free : ∀ index' nextSequence, ¬ system.saves index' nextSequence)
    (higher : ∀ cached ∈ system.cache, cached.sequence < nextSequence) :
    Issued { system with calls := system.calls.set index (.save nextSequence) } := by
  have saves : ∀ index' sequence,
      SequenceSystem.saves { system with calls := system.calls.set index (.save nextSequence) } index' sequence →
        index' = index ∧ sequence = nextSequence := by
    intro index' sequence saving
    rcases set_cases saving with ⟨here, same⟩ | ⟨_, old⟩
    · cases same
      exact ⟨here, rfl⟩
    · exact absurd old (free index' sequence)
  have returns : ∀ index' sequence,
      SequenceSystem.returned { system with calls := system.calls.set index (.save nextSequence) } index' =
        some sequence → system.returned index' = some sequence := by
    intro index' sequence returned
    rcases set_cases (returned_iff.mp returned) with ⟨_, same⟩ | ⟨_, old⟩
    · cases same
    · exact returned_iff.mpr old
  refine ⟨?_, ?_, ?_, ?_⟩
  · intro index' sequence returned
    exact issued.below index' sequence (returns _ _ returned)
  · intro index' sequence saving cached member
    rw [(saves _ _ saving).2]
    exact higher cached member
  · intro first second _ _ saving saving'
    exact (saves _ _ saving).1.trans (saves _ _ saving').1.symm
  · intro first second sequence returned returned'
    exact issued.distinct first second sequence (returns _ _ returned) (returns _ _ returned')

theorem Issued.written {nextSequence : Int} {expiry : Nat} (issued : Issued system)
    (saving : system.saves index nextSequence) (unsaved : ∀ sequence, phase ≠ .save sequence)
    (returning : ∀ sequence, phase = .prepare sequence → sequence = nextSequence - 1) :
    Issued { system with
      cache := some ⟨nextSequence, expiry⟩
      calls := system.calls.set index phase } := by
  have free : ∀ index' sequence, ¬ SequenceSystem.saves { system with
      cache := some ⟨nextSequence, expiry⟩
      calls := system.calls.set index phase } index' sequence := by
    intro index' sequence saving'
    rcases set_cases saving' with ⟨_, same⟩ | ⟨other, old⟩
    · exact unsaved sequence same.symm
    · exact other (issued.alone index' index _ _ old saving)
  have returns : ∀ index' sequence, SequenceSystem.returned { system with
      cache := some ⟨nextSequence, expiry⟩
      calls := system.calls.set index phase } index' = some sequence →
        index' = index ∧ sequence = nextSequence - 1 ∨
          system.returned index' = some sequence ∧ sequence + 1 < nextSequence := by
    intro index' sequence returned
    rcases set_cases (returned_iff.mp returned) with ⟨here, same⟩ | ⟨_, old⟩
    · exact .inl ⟨here, returning sequence same.symm⟩
    · obtain ⟨cached, member, less⟩ := issued.below index' sequence (returned_iff.mpr old)
      have more := issued.above index nextSequence saving cached member
      exact .inr ⟨returned_iff.mpr old, by omega⟩
  refine ⟨?_, ?_, ?_, ?_⟩
  · intro index' sequence returned
    refine ⟨_, rfl, ?_⟩
    rcases returns _ _ returned with ⟨_, rfl⟩ | ⟨_, less⟩
    · exact sub_one_lt nextSequence
    · exact (lt_add_one sequence).trans less
  · intro index' sequence saving'
    exact absurd saving' (free index' sequence)
  · intro first _ sequence _ saving'
    exact absurd saving' (free first sequence)
  · intro first second sequence returned returned'
    rcases returns _ _ returned with ⟨here, number⟩ | ⟨old, less⟩
    · rcases returns _ _ returned' with ⟨here', _⟩ | ⟨_, less'⟩
      · exact here.trans here'.symm
      · omega
    · rcases returns _ _ returned' with ⟨_, number'⟩ | ⟨old', _⟩
      · omega
      · exact issued.distinct first second sequence old old'

theorem cachedSequence_live {cached : CachedSequence} (member : cached ∈ system.cache)
    (live : system.clock < cached.expiry) : system.cachedSequence = some cached.sequence := by
  rw [Option.mem_def] at member
  simp [SequenceSystem.cachedSequence, member, Option.filter, live]

theorem nextSequence_above (ledgerSequence : Int) (sequence : Option Int) :
    ledgerSequence < nextSequence ledgerSequence sequence ∧
      ∀ cachedSequence ∈ sequence, cachedSequence < nextSequence ledgerSequence sequence := by
  cases sequence with
  | none => exact ⟨lt_add_one ledgerSequence, fun _ none => nomatch none⟩
  | some cachedSequence =>
    simp only [nextSequence, Option.mem_def, Option.some.injEq, forall_eq']
    split <;> omega

theorem operate_issued {delivery : Delivery} (issued : Issued system) (here : system.calls[index]? = some phase)
    (asks : phase.asks = true) (settled : Settled system (.operate index delivery)) :
    Issued (system.operate request index phase delivery) := by
  cases phase with
  | account => cases delivery <;> exact issued.moved nofun nofun
  | cached ledgerSequence =>
    cases delivery with
    | answered =>
      obtain ⟨free, current⟩ := settled ledgerSequence here
      apply issued.picked free
      intro cached member
      obtain ⟨aboveLedger, aboveCached⟩ := nextSequence_above ledgerSequence system.cachedSequence
      rcases current cached member with live | passed
      · exact aboveCached _ (cachedSequence_live member live)
      · exact passed.trans_lt aboveLedger
    | unperformed | unanswered => exact issued.moved nofun nofun
  | save nextSequence =>
    cases delivery with
    | answered =>
      refine issued.written here nofun ?_
      intro sequence same
      cases same
      rfl
    | unperformed => exact issued.moved nofun nofun
    | unanswered => exact issued.written here nofun nofun
  | key | reset | prepare | send | resetRejected | poll | record | resetFailed | verify | returned
  | thrown => cases asks

theorem call_issued (issued : Issued system) : Issued (sequenceStep request system .call) := by
  have old : ∀ {index' : Nat} {found : Phase}, found ≠ .account →
      (sequenceStep request system .call).calls[index']? = some found → system.calls[index']? = some found := by
    intro index' found other here
    change (system.calls ++ [Phase.account])[index']? = some found at here
    rw [List.getElem?_append] at here
    split at here
    · exact here
    · have new := List.mem_of_getElem? here
      exact absurd (List.mem_singleton.mp new) other
  apply issued.fewer
  · rfl
  · intro index nextSequence saving
    exact old nofun saving
  · intro index sequence returned
    exact returned_iff.mpr (old nofun (returned_iff.mp returned))

theorem step_issued {input : SequenceInput} (issued : Issued system) (settled : Settled system input) :
    Issued (sequenceStep request system input) := by
  cases input with
  | call => exact call_issued issued
  | operate index delivery =>
    cases here : system.calls[index]? with
    | none =>
      simp only [sequenceStep, here]
      exact issued
    | some phase =>
      cases asks : phase.asks with
      | false =>
        simp only [sequenceStep, here, asks, Bool.false_eq_true, if_false]
        exact issued
      | true =>
        simp only [sequenceStep, here, asks, if_true]
        exact operate_issued issued here asks settled
  | advance | tick => exact ⟨issued.below, issued.above, issued.alone, issued.distinct⟩

end Steps

/-- No number is returned twice, in every run in which no cache is read between the reading and the writing
of another call, and none once a number that the ledger has not come to has expired. -/
theorem sequences_distinct (request : TransactionRequest) (clock : Nat) (cache : Option CachedSequence)
    (ledgerSequence : Int) (inputs : List SequenceInput)
    (settled : ∀ input older, input :: older <:+ inputs →
      Settled (sequenceRun request clock cache ledgerSequence older) input) :
    ∀ older, older <:+ inputs → (sequenceRun request clock cache ledgerSequence older).Distinct := by
  have issued : ∀ older, older <:+ inputs →
      Issued (sequenceRun request clock cache ledgerSequence older) := by
    refine Run.along ⟨nofun, nofun, nofun, nofun⟩ ?_
    intro input older within issued
    exact step_issued issued (settled input older within)
  intro older within
  exact (issued older within).distinct

-- Two calls that both read the cache before one of them has written it, newest first.
def overlappingCalls : List SequenceInput :=
  [ .operate 1 .answered, .operate 0 .answered, .operate 1 .answered, .operate 0 .answered,
    .operate 1 .answered, .operate 0 .answered, .call, .call ]

theorem overlapping_calls_share_number :
    ¬ (sequenceRun sampleRequest 0 none 5 overlappingCalls).Distinct := by
  intro distinct
  have shared := distinct 0 1 5 (by decide) (by decide)
  cases shared

-- The second call begins first, and reads the cache once the first one has written it.
def orderedCalls : List SequenceInput :=
  [ .operate 1 .answered, .operate 1 .answered, .operate 0 .answered, .operate 0 .answered,
    .operate 0 .answered, .operate 1 .answered, .call, .call ]

theorem sequences_distinct_ordered : (sequenceRun sampleRequest 0 none 5 orderedCalls).Distinct := by
  refine sequences_distinct sampleRequest 0 none 5 orderedCalls ?_ orderedCalls List.suffix_rfl
  intro input older within
  simp only [orderedCalls, List.suffix_cons_iff, List.suffix_nil, List.cons.injEq, reduceCtorEq,
    or_false] at within
  rcases within with ⟨rfl, rfl⟩ | ⟨rfl, rfl⟩ | ⟨rfl, rfl⟩ | ⟨rfl, rfl⟩ | ⟨rfl, rfl⟩ | ⟨rfl, rfl⟩ |
    ⟨rfl, rfl⟩ | ⟨rfl, rfl⟩
  all_goals first
    | trivial
    | intro ledgerSequence reading
      cases reading
  · refine ⟨?_, fun cached member => .inl ?_⟩
    · intro index' nextSequence saving
      rcases index' with _ | _ | index' <;> cases saving
    · cases member
      decide
  · refine ⟨?_, nofun⟩
    intro index' nextSequence saving
    rcases index' with _ | _ | index' <;> cases saving

end Delego.Wallet.TxQueue
