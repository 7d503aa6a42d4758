import Delego.Shared.Run
import Delego.Wallet.TxQueue

set_option autoImplicit false

namespace Delego.Wallet.TxQueue

open Shared

structure Transaction where
  attempt : Nat
  sequence : Int
  deriving DecidableEq

/-- A job of one source account, with the account on the ledger. The transactions of the job that the
network still holds are pending; those that have taken effect are kept apart. -/
structure JobSystem where
  job : Job
  cache : Option Int
  ledgerSequence : Int
  pending : List Transaction
  effective : List Transaction

inductive JobInput where
  -- The worker takes the job up.
  | process
  | answer (response : Response)
  -- A ledger takes in a pending transaction, which may fail there.
  | close (index : Nat) (succeeds : Bool)
  -- A pending transaction runs out of time, or is lost.
  | expire (index : Nat)
  -- A transaction of somebody else is taken in.
  | advance
  -- The cached number expires, or is written for another job.
  | cache (sequence : Option Int)

-- The cache answers with what it holds.
def JobSystem.heard (system : JobSystem) : Phase → Response → Response
  | .cached _, .failed message => .failed message
  | .cached _, _ => .cached system.cache
  | _, response => response

def cacheAfter (cache : Option Int) : Phase → Response → Option Int
  | .reset, .done => none
  | .resetRejected _, .done => none
  | .resetFailed .., .done => none
  | .save nextSequence, .done => some nextSequence
  | _, _ => cache

-- A transaction is with the network from the call that submits it until it is refused.
def pendingAfter (attempt : Nat) (pending : List Transaction) :
    Phase → Response → List Transaction
  | .prepare buildSequence, .done => ⟨attempt, buildSequence + 1⟩ :: pending
  | .send sequence, .sent reply =>
    if reply.status = "ERROR" then pending.erase ⟨attempt, sequence⟩ else pending
  | _, _ => pending

def jobStep (request : TransactionRequest) (system : JobSystem) : JobInput → JobSystem
  | .process =>
    match system.job with
    | .waiting attemptsMade => { system with job := .active attemptsMade .key }
    | _ => system
  | .answer response =>
    match system.job with
    | .active attemptsMade phase =>
      let response := system.heard phase response
      { system with
        job := settled attemptsMade (executeTxJob request (attemptsMade + 1) phase response)
        cache := cacheAfter system.cache phase response
        pending := pendingAfter (attemptsMade + 1) system.pending phase response }
    | _ => system
  | .close index succeeds =>
    match system.pending[index]? with
    | some transaction =>
      if transaction.sequence = system.ledgerSequence + 1 then
        { system with
          ledgerSequence := transaction.sequence
          pending := system.pending.eraseIdx index
          effective :=
            if succeeds then transaction :: system.effective else system.effective }
      else system
    | none => system
  | .expire index =>
    { system with
      pending := system.pending.eraseIdx index }
  | .advance =>
    { system with
      ledgerSequence := system.ledgerSequence + 1 }
  | .cache sequence =>
    { system with
      cache := sequence }

def jobRun (request : TransactionRequest) (cache : Option Int) (ledgerSequence : Int) :
    List JobInput → JobSystem
  | [] => ⟨.waiting 0, cache, ledgerSequence, [], []⟩
  | input :: earlier => jobStep request (jobRun request cache ledgerSequence earlier) input

def JobSystem.Numbered (system : JobSystem) (number : Int) : Prop :=
  (∀ transaction ∈ system.effective, transaction.sequence = number) ∧
    ∀ transaction ∈ system.pending, system.ledgerSequence < transaction.sequence →
      transaction.sequence = number

-- When an attempt picks its number, what earlier attempts have left behind has that number too.
def Cleared (system : JobSystem) : JobInput → Prop
  | .answer (.failed _) => True
  | .answer _ => ∀ attemptsMade ledgerSequence,
    system.job = .active attemptsMade (.cached ledgerSequence) →
      system.Numbered (max ledgerSequence (system.cache.getD ledgerSequence) + 1)
  | _ => True

theorem nextSequence_eq_max (ledgerSequence : Int) (cache : Option Int) :
    nextSequence ledgerSequence cache = max ledgerSequence (cache.getD ledgerSequence) + 1 := by
  cases cache with
  | none => simp [nextSequence]
  | some cachedSequence =>
    simp only [nextSequence, Option.getD_some]
    split <;> omega

def Phase.number : Phase → Option Int
  | .save nextSequence => some nextSequence
  | .prepare buildSequence => some (buildSequence + 1)
  | .send sequence => some sequence
  | _ => none

def Job.number : Job → Option Int
  | .active _ phase => phase.number
  | _ => none

structure Single (system : JobSystem) : Prop where
  few : system.effective.length ≤ 1
  spent : ∀ transaction ∈ system.effective, transaction.sequence ≤ system.ledgerSequence
  numbered : ∃ number, system.Numbered number ∧ ∀ held ∈ system.job.number, held = number

theorem settled_number (attemptsMade : Nat) (phase : Phase) :
    (settled attemptsMade phase).number = phase.number := by
  cases phase with
  | thrown error =>
    cases error with
    | error message =>
      by_cases left : attemptsMade + 1 < attempts
      · simp only [settled, left, if_true, Job.number, Phase.number]
      · simp only [settled, left, if_false, Job.number, Phase.number]
    | unrecoverable message => rfl
  | key | reset | account | cached | save | prepare | send | resetRejected | poll | record
  | resetFailed | verify | returned => rfl

theorem settled_active {attemptsMade attemptsMade' : Nat} {phase phase' : Phase}
    (active : settled attemptsMade phase = .active attemptsMade' phase') :
    attemptsMade' = attemptsMade ∧ phase' = phase := by
  cases phase with
  | thrown error =>
    cases error with
    | error message =>
      by_cases left : attemptsMade + 1 < attempts
      · simp [settled, left] at active
      · simp [settled, left] at active
    | unrecoverable message => cases active
  | returned => cases active
  | key | reset | account | cached | save | prepare | send | resetRejected | poll | record
  | resetFailed | verify =>
    cases active
    exact ⟨rfl, rfl⟩

theorem executeTxJob_number {request : TransactionRequest} {attempt : Nat} {phase : Phase}
    {response : Response} {held : Int}
    (number : (executeTxJob request attempt phase response).number = some held) :
    phase.number = some held ∨ ∃ ledgerSequence sequence, phase = .cached ledgerSequence ∧
      response = .cached sequence ∧ held = nextSequence ledgerSequence sequence := by
  have advance := executeTxJob_advance request attempt phase response
  generalize executeTxJob request attempt phase response = phase' at advance number
  cases advance with
  | stays => exact .inl number
  | picks ledgerSequence sequence =>
    cases number
    exact .inr ⟨ledgerSequence, sequence, rfl, rfl, rfl⟩
  | saves nextSequence =>
    simp only [Phase.number, Int.sub_add_cancel] at number
    exact .inl number
  | prepares => exact .inl number
  | throws | misses | begins | retries | resets | loads | rejected | submits | waits | exhausts | fails
  | records | succeeds | finishes | verifies => cases number

theorem pendingAfter_mem {attempt : Nat} {pending : List Transaction} {phase : Phase}
    {response : Response} {transaction : Transaction}
    (member : transaction ∈ pendingAfter attempt pending phase response) :
    transaction ∈ pending ∨ phase.number = some transaction.sequence := by
  fun_cases pendingAfter attempt pending phase response with
  | case1 buildSequence =>
    rcases List.mem_cons.mp member with rfl | old
    · exact .inr rfl
    · exact .inl old
  | case2 sequence reply refused =>
    simp only [pendingAfter, refused, if_true] at member
    exact .inl (List.mem_of_mem_erase member)
  | case3 sequence reply accepted =>
    simp only [pendingAfter, accepted, if_false] at member
    exact .inl member
  | case4 phase response other refused =>
    simp only [pendingAfter] at member
    exact .inl member

section Steps

variable {request : TransactionRequest} {system : JobSystem}

theorem answer_single {attemptsMade : Nat} {phase : Phase} {response : Response}
    (active : system.job = .active attemptsMade phase) (single : Single system)
    (cleared : Cleared system (.answer response)) :
    Single (jobStep request system (.answer response)) := by
  obtain ⟨few, spent, number, numbered, held⟩ := single
  simp only [jobStep, active]
  refine ⟨few, spent, ?_⟩
  rw [active] at held
  by_cases picks : ∃ ledgerSequence sequence, phase = .cached ledgerSequence ∧
      system.heard phase response = .cached sequence
  · obtain ⟨ledgerSequence, sequence, rfl, heard⟩ := picks
    -- What the phase hears is what the cache holds, unless the cache fails.
    have answered : sequence = system.cache ∧ ∀ message, response ≠ .failed message := by
      cases response with
      | failed message => cases heard
      | done | account | cached | notSimulated | sent | status =>
        cases heard
        exact ⟨rfl, fun message => Response.noConfusion⟩
    obtain ⟨rfl, answers⟩ := answered
    have picked : system.Numbered (max ledgerSequence (system.cache.getD ledgerSequence) + 1) := by
      cases response with
      | failed message => exact absurd rfl (answers message)
      | done | account | cached | notSimulated | sent | status =>
        exact cleared attemptsMade ledgerSequence active
    refine ⟨_, picked, ?_⟩
    intro number' numbers
    rw [heard, settled_number] at numbers
    cases numbers
    exact nextSequence_eq_max ..
  · refine ⟨number, ⟨numbered.1, ?_⟩, ?_⟩
    · intro transaction pending live
      rcases pendingAfter_mem pending with old | new
      · exact numbered.2 transaction old live
      · exact held _ new
    · intro number' numbers
      rw [Option.mem_def, settled_number] at numbers
      rcases executeTxJob_number numbers with kept | ⟨ledgerSequence, sequence, cached, heard, _⟩
      · exact held _ kept
      · exact absurd ⟨ledgerSequence, sequence, cached, heard⟩ picks

theorem close_single {index : Nat} {transaction : Transaction} (single : Single system)
    (found : system.pending[index]? = some transaction)
    (next : transaction.sequence = system.ledgerSequence + 1) (succeeds : Bool) :
    Single (jobStep request system (.close index succeeds)) := by
  obtain ⟨few, spent, number, numbered, held⟩ := single
  have live : transaction.sequence = number :=
    numbered.2 transaction (List.mem_of_getElem? found) (by omega)
  -- Nothing of the same number can have taken effect before.
  have unspent : system.effective = [] := by
    rw [List.eq_nil_iff_forall_not_mem]
    intro earlier effective
    have same := numbered.1 earlier effective
    have past := spent earlier effective
    omega
  have effects : ∀ earlier ∈ if succeeds then transaction :: system.effective else system.effective,
      earlier = transaction := by
    cases succeeds <;> simp [unspent]
  simp only [jobStep, found, next, if_true]
  refine ⟨?_, ?_, number, ⟨?_, ?_⟩, held⟩
  · cases succeeds <;> simp [unspent]
  · intro earlier effective
    rw [effects earlier effective]
    exact next.le
  · intro earlier effective
    rw [effects earlier effective]
    exact live
  · intro other pending ahead
    exact numbered.2 other (List.mem_of_mem_eraseIdx pending) (by simp only at ahead; omega)

theorem step_single (single : Single system) {input : JobInput} (cleared : Cleared system input) :
    Single (jobStep request system input) := by
  have ⟨few, spent, number, numbered, held⟩ := single
  cases input with
  | process =>
    cases job : system.job with
    | waiting attemptsMade =>
      simp only [jobStep, job]
      exact ⟨few, spent, number, numbered, fun _ none => nomatch none⟩
    | active | completed | failed =>
      simp only [jobStep, job]
      exact single
  | answer response =>
    cases job : system.job with
    | active attemptsMade phase => exact answer_single job single cleared
    | waiting | completed | failed =>
      simp only [jobStep, job]
      exact single
  | close index succeeds =>
    cases found : system.pending[index]? with
    | none =>
      simp only [jobStep, found]
      exact single
    | some transaction =>
      by_cases next : transaction.sequence = system.ledgerSequence + 1
      · exact close_single single found next succeeds
      · simp only [jobStep, found, next, if_false]
        exact single
  | expire index =>
    refine ⟨few, spent, number, ⟨numbered.1, ?_⟩, held⟩
    intro transaction pending live
    exact numbered.2 transaction (List.mem_of_mem_eraseIdx pending) live
  | advance =>
    refine ⟨few, ?_, number, ⟨numbered.1, ?_⟩, held⟩
    · intro transaction effective
      have before := spent transaction effective
      simp only [jobStep]
      omega
    · intro transaction pending live
      simp only [jobStep] at live
      exact numbered.2 transaction pending (by omega)
  | cache sequence => exact ⟨few, spent, number, numbered, held⟩

-- The account is loaded as it is, before any transaction of the job has taken effect, and the cache has no
-- higher number.
def LoadedFirst (system : JobSystem) : JobInput → Prop
  | .answer response => ∀ attemptsMade phase, system.job = .active attemptsMade phase →
    match phase, response with
    | .account, .account sequenceNumber =>
      sequenceNumber = system.ledgerSequence ∧ system.effective = []
    | .cached ledgerSequence, _ => ∀ cachedSequence ∈ system.cache, cachedSequence ≤ ledgerSequence
    | _, _ => True
  | _ => True

structure Behind (system : JobSystem) : Prop where
  pending : ∀ transaction ∈ system.pending, transaction.sequence ≤ system.ledgerSequence + 1
  held : ∀ number ∈ system.job.number, number ≤ system.ledgerSequence + 1
  loaded : ∀ attemptsMade ledgerSequence, system.job = .active attemptsMade (.cached ledgerSequence) →
    ledgerSequence ≤ system.ledgerSequence ∧
      (∀ transaction ∈ system.effective, transaction.sequence = ledgerSequence + 1) ∧
      ∀ transaction ∈ system.pending, transaction.sequence ≤ ledgerSequence + 1

theorem Behind.cleared (behind : Behind system) {input : JobInput} (first : LoadedFirst system input) :
    Cleared system input := by
  cases input with
  | process | close | expire | advance | cache => trivial
  | answer response =>
    cases response with
    | failed message => trivial
    | done | account | cached | notSimulated | sent | status =>
      intro attemptsMade ledgerSequence job
      obtain ⟨before, effects, held⟩ := behind.loaded attemptsMade ledgerSequence job
      have covers : system.cache.getD ledgerSequence ≤ ledgerSequence := by
        cases cached : system.cache with
        | none => exact le_rfl
        | some cachedSequence => exact first attemptsMade (.cached ledgerSequence) job cachedSequence cached
      rw [max_eq_left covers]
      refine ⟨effects, ?_⟩
      intro transaction pending live
      have last := held transaction pending
      omega

theorem answer_behind (behind : Behind system) {response : Response}
    (first : LoadedFirst system (.answer response)) : Behind (jobStep request system (.answer response)) := by
  cases job : system.job with
  | waiting | completed | failed =>
    simp only [jobStep, job]
    exact behind
  | active attemptsMade phase =>
    have held := behind.held
    rw [job] at held
    simp only [jobStep, job]
    refine ⟨?_, ?_, ?_⟩
    · intro transaction pending
      rcases pendingAfter_mem pending with old | new
      · exact behind.pending transaction old
      · exact held _ new
    · intro number numbers
      rw [Option.mem_def, settled_number] at numbers
      rcases executeTxJob_number numbers with kept | ⟨ledgerSequence, sequence, rfl, heard, rfl⟩
      · exact held _ kept
      · obtain ⟨before, _⟩ := behind.loaded attemptsMade ledgerSequence job
        rw [nextSequence_eq_max]
        -- What the phase hears is what the cache holds.
        have covers : sequence.getD ledgerSequence ≤ ledgerSequence := by
          cases response with
          | failed message => cases heard
          | done | account | cached | notSimulated | sent | status =>
            cases heard
            cases cached : system.cache with
            | none => exact le_rfl
            | some cachedSequence =>
              exact first attemptsMade (.cached ledgerSequence) job cachedSequence cached
        rw [max_eq_left covers]
        dsimp only
        omega
    · intro attemptsMade' ledgerSequence active
      obtain ⟨rfl, same⟩ := settled_active active
      have advance := executeTxJob_advance request (attemptsMade' + 1) phase (system.heard phase response)
      rw [← same] at advance
      generalize told : system.heard phase response = heard at advance ⊢
      cases advance with
      | stays => exact behind.loaded attemptsMade' ledgerSequence job
      | loads =>
        cases told
        obtain ⟨loaded, effects⟩ := first attemptsMade' .account job
        rw [loaded, effects]
        refine ⟨le_rfl, ?_, behind.pending⟩
        intro transaction effective
        cases effective

theorem step_behind (behind : Behind system) {input : JobInput} (first : LoadedFirst system input) :
    Behind (jobStep request system input) := by
  cases input with
  | process =>
    cases job : system.job with
    | waiting attemptsMade =>
      simp only [jobStep, job]
      refine ⟨behind.pending, ?_, ?_⟩
      · intro number none
        cases none
      · intro attemptsMade' ledgerSequence begun
        cases begun
    | active | completed | failed =>
      simp only [jobStep, job]
      exact behind
  | answer response => exact answer_behind behind first
  | close index succeeds =>
    cases found : system.pending[index]? with
    | none =>
      simp only [jobStep, found]
      exact behind
    | some transaction =>
      by_cases next : transaction.sequence = system.ledgerSequence + 1
      · simp only [jobStep, found, next, if_true]
        refine ⟨?_, ?_, ?_⟩
        · intro other pending
          have before := behind.pending other (List.mem_of_mem_eraseIdx pending)
          dsimp only
          omega
        · intro number held
          have before := behind.held number held
          dsimp only
          omega
        · intro attemptsMade ledgerSequence job
          obtain ⟨before, effects, pendings⟩ := behind.loaded attemptsMade ledgerSequence job
          -- What is taken in now had the number that was next when the account was loaded.
          have own := pendings transaction (List.mem_of_getElem? found)
          refine ⟨by dsimp only; omega, ?_, ?_⟩
          · intro other effective
            cases succeeds with
            | false => exact effects other effective
            | true =>
              rcases List.mem_cons.mp effective with rfl | old
              · omega
              · exact effects other old
          · intro other pending
            exact pendings other (List.mem_of_mem_eraseIdx pending)
      · simp only [jobStep, found, next, if_false]
        exact behind
  | expire index =>
    refine ⟨?_, behind.held, ?_⟩
    · intro transaction pending
      exact behind.pending transaction (List.mem_of_mem_eraseIdx pending)
    · intro attemptsMade ledgerSequence job
      obtain ⟨before, effects, pendings⟩ := behind.loaded attemptsMade ledgerSequence job
      refine ⟨before, effects, ?_⟩
      intro transaction pending
      exact pendings transaction (List.mem_of_mem_eraseIdx pending)
  | advance =>
    refine ⟨?_, ?_, ?_⟩
    · intro transaction pending
      have before := behind.pending transaction pending
      simp only [jobStep]
      omega
    · intro number held
      have before := behind.held number held
      simp only [jobStep]
      omega
    · intro attemptsMade ledgerSequence job
      obtain ⟨before, rest⟩ := behind.loaded attemptsMade ledgerSequence job
      refine ⟨?_, rest⟩
      simp only [jobStep]
      omega
  | cache sequence => exact ⟨behind.pending, behind.held, behind.loaded⟩

end Steps

/-- Where each attempt loads the account before anything of the job has taken effect, and the cache is not
ahead, the attempts clear one another's numbers. -/
theorem cleared_of_loadedFirst {request : TransactionRequest} {cache : Option Int} {ledgerSequence : Int}
    {inputs : List JobInput} (first : ∀ input older, input :: older <:+ inputs →
      LoadedFirst (jobRun request cache ledgerSequence older) input) :
    ∀ input older, input :: older <:+ inputs →
      Cleared (jobRun request cache ledgerSequence older) input := by
  have behind : ∀ older, older <:+ inputs → Behind (jobRun request cache ledgerSequence older) := by
    refine Run.along ⟨?_, ?_, ?_⟩ ?_
    · intro transaction pending
      cases pending
    · intro number none
      cases none
    · intro attemptsMade ledgerSequence waiting
      cases waiting
    · intro input older within behind
      exact step_behind behind (first input older within)
  intro input older within
  exact (behind older ((List.suffix_cons input older).trans within)).cleared (first input older within)

/-- At most one transaction of a job takes effect, in every run in which each attempt picks the number
of all that the attempts before it have left behind. -/
theorem single_effect (request : TransactionRequest) (cache : Option Int) (ledgerSequence : Int)
    (inputs : List JobInput)
    (cleared : ∀ input older, input :: older <:+ inputs →
      Cleared (jobRun request cache ledgerSequence older) input) :
    ∀ older, older <:+ inputs → (jobRun request cache ledgerSequence older).effective.length ≤ 1 := by
  have single : ∀ older, older <:+ inputs → Single (jobRun request cache ledgerSequence older) := by
    refine Run.along ⟨Nat.zero_le _, ?_, 0, ⟨?_, ?_⟩, ?_⟩ ?_
    · intro transaction effective
      cases effective
    · intro transaction effective
      cases effective
    · intro transaction pending
      cases pending
    · intro held none
      cases none
    · intro input older within single
      exact step_single single (cleared input older within)
  intro older within
  exact (single older within).few

def submitted : List JobInput :=
  [ .answer .done, .answer .done, .answer (.cached none), .answer (.account 5), .answer .done, .process ]

-- The reply is lost, and the transaction takes effect before the second attempt loads the account.
def retriedAfterEffect : List JobInput :=
  .close 0 true :: .answer .done :: .answer .done :: .answer (.cached none) :: .answer (.account 6) ::
    .answer .done :: .answer .done :: .process :: .close 0 true ::
      .answer (.failed "socket hang up") :: submitted

theorem retry_takes_effect_twice :
    ¬ (jobRun sampleRequest none 5 retriedAfterEffect).effective.length ≤ 1 := by
  decide +kernel

-- It takes effect once the second attempt has loaded the account: both have one number.
def retriedBeforeEffect : List JobInput :=
  .close 0 true :: .close 1 true :: .answer .done :: .answer .done :: .answer (.cached none) ::
    .answer (.account 5) :: .answer .done :: .answer .done :: .process ::
      .answer (.failed "socket hang up") :: submitted

theorem single_effect_sample :
    (jobRun sampleRequest none 5 retriedBeforeEffect).effective.length ≤ 1 := by
  refine single_effect sampleRequest none 5 retriedBeforeEffect ?_ retriedBeforeEffect List.suffix_rfl
  intro input older within
  simp only [retriedBeforeEffect, submitted, List.suffix_cons_iff, List.suffix_nil, List.cons.injEq,
    reduceCtorEq, or_false] at within
  rcases within with ⟨rfl, rfl⟩ | ⟨rfl, rfl⟩ | ⟨rfl, rfl⟩ | ⟨rfl, rfl⟩ | ⟨rfl, rfl⟩ | ⟨rfl, rfl⟩ |
    ⟨rfl, rfl⟩ | ⟨rfl, rfl⟩ | ⟨rfl, rfl⟩ | ⟨rfl, rfl⟩ | ⟨rfl, rfl⟩ | ⟨rfl, rfl⟩ | ⟨rfl, rfl⟩ |
    ⟨rfl, rfl⟩ | ⟨rfl, rfl⟩ | ⟨rfl, rfl⟩
  all_goals first
    | trivial
    | intro attemptsMade ledgerSequence cached
      cases cached
  · constructor
    · intro transaction effective
      cases effective
    · intro transaction pending _
      cases pending with
      | head => rfl
      | tail _ none => cases none
  · constructor
    · intro transaction effective
      cases effective
    · intro transaction pending
      cases pending

end Delego.Wallet.TxQueue
