import Delego.Wallet.SingleEffect

set_option autoImplicit false

namespace Delego.Wallet.TxQueue

open Shared

/-- The jobs of one account, one after the other: the one that has been taken up last, and the numbers of the
transactions that the ledger has taken in. -/
structure AccountSystem where
  request : TransactionRequest
  current : JobSystem
  taken : List Int

inductive AccountInput where
  -- The worker goes on to another job, once this one is over and the network holds nothing of it.
  | next (request : TransactionRequest)
  | process
  | answer (response : Response)
  | close (index : Nat) (succeeds : Bool)
  | expire (index : Nat)
  -- The cached number expires.
  | forget

def Job.over : Job → Bool
  | .completed _ | .failed _ => true
  | _ => false

def AccountSystem.told (system : AccountSystem) : Phase → Response → Response
  | .account, .failed message => .failed message
  | .account, _ => .account system.current.ledgerSequence
  | _, response => response

def accountStep (system : AccountSystem) : AccountInput → AccountSystem
  | .next request =>
    if system.current.job.over && system.current.pending.isEmpty then
      { system with
        request
        current := { system.current with job := .waiting 0, effective := [] } }
    else system
  | .process =>
    { system with
      current := jobStep system.request system.current .process }
  | .answer response =>
    match system.current.job with
    | .active _ phase =>
      { system with
        current := jobStep system.request system.current (.answer (system.told phase response)) }
    | _ => system
  | .close index succeeds =>
    let current := jobStep system.request system.current (.close index succeeds)
    { system with
      current
      taken :=
        if current.ledgerSequence = system.current.ledgerSequence then system.taken
        else current.ledgerSequence :: system.taken }
  | .expire index =>
    { system with
      current := jobStep system.request system.current (.expire index) }
  | .forget =>
    { system with
      current := jobStep system.request system.current (.cache none) }

def accountRun (request : TransactionRequest) (cache : Option Int) (ledgerSequence : Int) :
    List AccountInput → AccountSystem
  | [] => ⟨request, jobRun request cache ledgerSequence [], []⟩
  | input :: earlier => accountStep (accountRun request cache ledgerSequence earlier) input

def Phase.unsent : Phase → Option Int
  | .save nextSequence => some nextSequence
  | .prepare buildSequence => some (buildSequence + 1)
  | _ => none

/-- A first attempt has the ledger's next number. -/
def AccountSystem.InStep (system : AccountSystem) : Prop :=
  ∀ phase, system.current.job = .active 0 phase →
    ∀ number ∈ phase.unsent, number = system.current.ledgerSequence + 1

-- What an attempt came to, or what else has been done with the number that was saved.
inductive Outcome where
  -- It ended before it saved a number, or the number expired under it.
  | numberless
  -- Its simulation failed.
  | unsubmitted (number : Int)
  -- Its submission failed or was refused; with a sequence error, the number could not be cleared.
  | refused (number : Int)
  -- The network had its transaction: confirmed, failed there, or not heard of again.
  | submitted (number : Int)
  -- It ended with a sequence error, and its number was cleared.
  | cleared
  | retried
  | expired

def outcome (saved : Option Int) : Phase → Response → Outcome
  | .resetRejected _, .done | .resetFailed .., .done => .cleared
  | phase, _ =>
    match saved, phase with
    | none, _ => .numberless
    | some number, .prepare _ => .unsubmitted number
    | some number, .send _ | some number, .resetRejected _ => .refused number
    | some number, _ => .submitted number

/-- The outcomes so far, newest first, and the number that the attempt under way has saved. -/
structure Outcomes where
  saved : Option Int
  ended : List Outcome

def Phase.over : Phase → Bool
  | .returned _ | .thrown _ => true
  | _ => false

def Outcomes.answer (outcomes : Outcomes) (phase : Phase) (response : Response) (next : Phase) : Outcomes :=
  if next.over then ⟨none, outcome outcomes.saved phase response :: outcomes.ended⟩
  else
    match phase, response with
    | .reset, .done => ⟨none, .retried :: outcomes.ended⟩
    | .save nextSequence, .done => ⟨some nextSequence, outcomes.ended⟩
    | _, _ => outcomes

def Outcomes.step (system : AccountSystem) (outcomes : Outcomes) : AccountInput → Outcomes
  | .answer response =>
    match system.current.job with
    | .active attemptsMade phase =>
      let heard := system.current.heard phase (system.told phase response)
      outcomes.answer phase heard (executeTxJob system.request (attemptsMade + 1) phase heard)
    | _ => outcomes
  | .forget => ⟨none, .expired :: outcomes.ended⟩
  | _ => outcomes

def accountOutcomes (request : TransactionRequest) (cache : Option Int) (ledgerSequence : Int) :
    List AccountInput → Outcomes
  | [] => ⟨none, []⟩
  | input :: earlier =>
    (accountOutcomes request cache ledgerSequence earlier).step
      (accountRun request cache ledgerSequence earlier) input

-- The number with which the last attempt that had one ended, unless it has been cleared or has expired.
def leftOver (cache : Option Int) : List Outcome → Option Int
  | [] => cache
  | .numberless :: earlier => leftOver cache earlier
  | .unsubmitted number :: _ | .refused number :: _ | .submitted number :: _ => some number
  | .cleared :: _ | .retried :: _ | .expired :: _ => none

/-- When a first attempt reads the cache, the number that the attempts before it have left over has been used,
by a transaction that the ledger has taken in, or was not ahead from the start. -/
def Used (cache : Option Int) (start : Int) (system : AccountSystem) (outcomes : List Outcome) :
    AccountInput → Prop
  | .answer (.failed _) => True
  | .answer _ => ∀ ledgerSequence, system.current.job = .active 0 (.cached ledgerSequence) →
    ∀ number ∈ leftOver cache outcomes, number ≤ start ∨ number ∈ system.taken
  | _ => True

def Phase.early : Phase → Bool
  | .key | .reset | .account | .cached _ | .save _ | .prepare _ => true
  | _ => false

def Job.early : Job → Bool
  | .waiting 0 => true
  | .active 0 phase => phase.early
  | _ => false

structure Ordered (start : Int) (system : AccountSystem) : Prop where
  quiet : system.current.job.early = true → system.current.pending = []
  loaded : ∀ ledgerSequence, system.current.job = .active 0 (.cached ledgerSequence) →
    ledgerSequence = system.current.ledgerSequence
  started : start ≤ system.current.ledgerSequence
  taken : ∀ number, number ∈ system.taken ↔ start < number ∧ number ≤ system.current.ledgerSequence

def Phase.numbered : Phase → Bool
  | .prepare _ | .send _ | .resetRejected _ | .poll .. | .record .. | .resetFailed .. | .verify .. => true
  | _ => false

def Job.numbered : Job → Bool
  | .active _ phase => phase.numbered
  | _ => false

/-- The cache holds what the outcomes say. -/
structure Booked (cache : Option Int) (system : AccountSystem) (outcomes : Outcomes) : Prop where
  cached : system.current.cache = (outcomes.saved <|> leftOver cache outcomes.ended)
  unsaved : system.current.job.numbered = false → outcomes.saved = none
  prepared : ∀ attemptsMade buildSequence, system.current.job = .active attemptsMade (.prepare buildSequence) →
    ∀ number ∈ outcomes.saved, number = buildSequence + 1

section Steps

variable {request : TransactionRequest} {system : AccountSystem} {start : Int} {cache : Option Int}
  {outcomes : Outcomes}

theorem settled_waiting {attemptsMade attemptsMade' : Nat} {phase : Phase}
    (waiting : settled attemptsMade phase = .waiting attemptsMade') : attemptsMade' = attemptsMade + 1 := by
  cases phase with
  | thrown error =>
    cases error with
    | error message =>
      by_cases left : attemptsMade + 1 < attempts
      · simp [settled, left] at waiting
        exact waiting.symm
      · simp [settled, left] at waiting
    | unrecoverable message => cases waiting
  | key | reset | account | cached | save | prepare | send | resetRejected | poll | record
  | resetFailed | verify | returned => cases waiting

theorem settled_early {attemptsMade : Nat} {phase : Phase} (early : (settled attemptsMade phase).early = true) :
    attemptsMade = 0 ∧ phase.early = true := by
  cases job : settled attemptsMade phase with
  | waiting attemptsMade' =>
    cases settled_waiting job
    rw [job] at early
    cases early
  | active attemptsMade' phase' =>
    obtain ⟨rfl, rfl⟩ := settled_active job
    rw [job] at early
    cases attemptsMade' with
    | zero => exact ⟨rfl, early⟩
    | succ => cases early
  | completed | failed =>
    rw [job] at early
    cases early

theorem executeTxJob_early {attempt : Nat} {phase : Phase} {response : Response}
    (early : (executeTxJob request attempt phase response).early = true) : phase.early = true := by
  have advance := executeTxJob_advance request attempt phase response
  generalize executeTxJob request attempt phase response = phase' at advance early
  cases advance with
  | stays => exact early
  | begins | retries | resets | loads | picks | saves => rfl
  | prepares | throws | misses | rejected | submits | waits | exhausts | fails | records | succeeds
  | finishes | verifies => cases early

theorem pendingAfter_early {attempt : Nat} {pending : List Transaction} {phase : Phase} {response : Response}
    (early : (executeTxJob request attempt phase response).early = true) :
    pendingAfter attempt pending phase response = pending := by
  have before := executeTxJob_early early
  fun_cases pendingAfter attempt pending phase response with
  | case1 => cases early
  | case2 | case3 => cases before
  | case4 => rfl

theorem early_of_unsent {phase : Phase} {number : Int} (unsent : number ∈ phase.unsent) :
    phase.early = true := by
  cases phase with
  | save | prepare => rfl
  | key | reset | account | cached | send | resetRejected | poll | record | resetFailed | verify
  | returned | thrown => cases unsent

theorem accountStep_answer {attemptsMade : Nat} {phase : Phase} (response : Response)
    (active : system.current.job = .active attemptsMade phase) :
    ∃ heard, heard = system.current.heard phase (system.told phase response) ∧
      (accountStep system (.answer response)).current =
        { system.current with
          job := settled attemptsMade (executeTxJob system.request (attemptsMade + 1) phase heard)
          cache := cacheAfter system.current.cache phase heard
          pending := pendingAfter (attemptsMade + 1) system.current.pending phase heard } ∧
      (accountStep system (.answer response)).taken = system.taken := by
  refine ⟨_, rfl, ?_, ?_⟩
  · simp only [accountStep, active, jobStep]
  · simp only [accountStep, active]

theorem answer_idle {response : Response}
    (idle : ∀ attemptsMade phase, system.current.job ≠ .active attemptsMade phase) :
    accountStep system (.answer response) = system := by
  cases job : system.current.job with
  | active attemptsMade phase => exact absurd job (idle attemptsMade phase)
  | waiting | completed | failed => simp only [accountStep, job]

theorem close_cases (index : Nat) (succeeds : Bool) :
    accountStep system (.close index succeeds) = system ∨
      system.current.pending ≠ [] ∧
        (accountStep system (.close index succeeds)).current.job = system.current.job ∧
        (accountStep system (.close index succeeds)).current.ledgerSequence =
          system.current.ledgerSequence + 1 ∧
        (accountStep system (.close index succeeds)).taken =
          (system.current.ledgerSequence + 1) :: system.taken := by
  cases found : system.current.pending[index]? with
  | none =>
    left
    simp only [accountStep, jobStep, found, if_true]
  | some transaction =>
    by_cases next : transaction.sequence = system.current.ledgerSequence + 1
    · refine .inr ⟨?_, ?_, ?_, ?_⟩
      · intro empty
        rw [empty] at found
        cases found
      · simp only [accountStep, jobStep, found, next, if_true]
      · simp only [accountStep, jobStep, found, next, if_true]
      · have moved : system.current.ledgerSequence + 1 ≠ system.current.ledgerSequence := by omega
        simp only [accountStep, jobStep, found, next, if_true, moved, if_false]
    · left
      simp only [accountStep, jobStep, found, next, if_false, if_true]

theorem answer_ordered (ordered : Ordered start system) (response : Response) :
    Ordered start (accountStep system (.answer response)) := by
  cases job : system.current.job with
  | waiting | completed | failed =>
    rw [answer_idle (by simp [job])]
    exact ordered
  | active attemptsMade phase =>
    obtain ⟨heard, heardIs, current, taken⟩ := accountStep_answer response job
    refine ⟨?_, ?_, ?_, ?_⟩
    · intro early
      rw [current] at early ⊢
      obtain ⟨rfl, later⟩ := settled_early early
      have before : system.current.job.early = true := by
        rw [job]
        exact executeTxJob_early later
      exact (pendingAfter_early later).trans (ordered.quiet before)
    · intro ledgerSequence loading
      rw [current] at loading ⊢
      obtain ⟨rfl, cached⟩ := settled_active loading
      have advance := executeTxJob_advance system.request 1 phase heard
      rw [← cached] at advance
      cases advance with
      | stays => exact ordered.loaded ledgerSequence job
      | loads sequenceNumber =>
        -- Horizon has told the number of the ledger.
        cases response with
        | failed message => cases heardIs
        | done | account | cached | notSimulated | sent | status =>
          cases heardIs
          rfl
    · rw [current]
      exact ordered.started
    · rw [current, taken]
      exact ordered.taken

theorem step_ordered (ordered : Ordered start system) (input : AccountInput) :
    Ordered start (accountStep system input) := by
  cases input with
  | next request =>
    cases free : system.current.job.over && system.current.pending.isEmpty with
    | false =>
      simp only [accountStep, free, Bool.false_eq_true, if_false]
      exact ordered
    | true =>
      simp only [accountStep, free, if_true]
      obtain ⟨_, empty⟩ := Bool.and_eq_true_iff.mp free
      refine ⟨fun _ => List.isEmpty_iff.mp empty, ?_, ordered.started, ordered.taken⟩
      intro ledgerSequence loading
      cases loading
  | process =>
    cases job : system.current.job with
    | waiting attemptsMade =>
      simp only [accountStep, jobStep, job]
      refine ⟨?_, ?_, ordered.started, ordered.taken⟩
      · intro early
        apply ordered.quiet
        rw [job]
        cases attemptsMade with
        | zero => rfl
        | succ => cases early
      · intro ledgerSequence loading
        cases loading
    | active | completed | failed =>
      simp only [accountStep, jobStep, job]
      exact ordered
  | answer response => exact answer_ordered ordered response
  | close index succeeds =>
    rcases @close_cases system index succeeds with same | ⟨pending, job, ledger, taken⟩
    · rw [same]
      exact ordered
    · have started := ordered.started
      refine ⟨?_, ?_, ?_, ?_⟩
      · intro early
        rw [job] at early
        exact absurd (ordered.quiet early) pending
      · intro ledgerSequence loading
        rw [job] at loading
        exact absurd (ordered.quiet (by rw [loading]; rfl)) pending
      · rw [ledger]
        omega
      · intro number
        rw [taken, ledger, List.mem_cons, ordered.taken]
        omega
  | expire index =>
    refine ⟨?_, ordered.loaded, ordered.started, ordered.taken⟩
    intro early
    have empty := ordered.quiet early
    simp only [accountStep, jobStep, empty, List.eraseIdx_nil]
  | forget => exact ⟨ordered.quiet, ordered.loaded, ordered.started, ordered.taken⟩

theorem accountRun_ordered (request : TransactionRequest) (cache : Option Int) (start : Int)
    (inputs : List AccountInput) : Ordered start (accountRun request cache start inputs) := by
  induction inputs with
  | nil =>
    refine ⟨fun _ => rfl, nofun, le_rfl, ?_⟩
    intro number
    simp [accountRun, jobRun]
  | cons input earlier ih => exact step_ordered ih input

theorem outcome_leftOver {saved : Option Int} {ended : List Outcome} {phase : Phase} {response : Response}
    (rejected : ∀ message, phase = .resetRejected message → response = .done → False)
    (failed : ∀ txHash message, phase = .resetFailed txHash message → response = .done → False) :
    leftOver cache (outcome saved phase response :: ended) = (saved <|> leftOver cache ended) := by
  fun_cases outcome saved phase response with
  | case1 => exact (rejected _ rfl rfl).elim
  | case2 => exact (failed _ _ rfl rfl).elim
  | case3 | case4 | case5 | case6 | case7 => simp [leftOver, *]

theorem answer_cached (attempt : Nat) (phase : Phase) (heard : Response) {held : Option Int}
    (cached : held = (outcomes.saved <|> leftOver cache outcomes.ended)) :
    cacheAfter held phase heard =
      ((outcomes.answer phase heard (executeTxJob request attempt phase heard)).saved <|>
        leftOver cache (outcomes.answer phase heard (executeTxJob request attempt phase heard)).ended) := by
  fun_cases cacheAfter held phase heard with
  | case1 => rfl
  | case2 => rfl
  | case3 => rfl
  | case4 => rfl
  | case5 phase heard resets rejected failed saves =>
    cases closing : (executeTxJob request attempt phase heard).over with
    | true =>
      simp only [Outcomes.answer, closing, if_true]
      rw [outcome_leftOver rejected failed]
      exact cached
    | false =>
      simp only [Outcomes.answer, closing, Bool.false_eq_true, if_false]
      exact cached

theorem settled_numbered {attemptsMade : Nat} {phase : Phase} :
    (settled attemptsMade phase).numbered = phase.numbered := by
  cases phase with
  | thrown error =>
    cases error with
    | error message =>
      by_cases left : attemptsMade + 1 < attempts
      · simp only [settled, left, if_true, Job.numbered, Phase.numbered]
      · simp only [settled, left, if_false, Job.numbered, Phase.numbered]
    | unrecoverable message => rfl
  | key | reset | account | cached | save | prepare | send | resetRejected | poll | record
  | resetFailed | verify | returned => rfl

theorem executeTxJob_unnumbered {attempt : Nat} {phase : Phase} {heard : Response}
    (numberless : (executeTxJob request attempt phase heard).numbered = false)
    (goes : (executeTxJob request attempt phase heard).over = false) : phase.numbered = false := by
  have advance := executeTxJob_advance request attempt phase heard
  generalize executeTxJob request attempt phase heard = next at advance numberless goes
  cases advance with
  | stays => exact numberless
  | begins | retries | resets | loads | picks | saves => rfl
  | throws | misses | succeeds | finishes | verifies => cases goes
  | prepares | rejected | submits | waits | exhausts | fails | records => cases numberless

theorem answer_unsaved {attempt : Nat} {phase : Phase} {heard : Response}
    (unsaved : phase.numbered = false → outcomes.saved = none)
    (numberless : (executeTxJob request attempt phase heard).numbered = false) :
    (outcomes.answer phase heard (executeTxJob request attempt phase heard)).saved = none := by
  cases closing : (executeTxJob request attempt phase heard).over with
  | true => simp only [Outcomes.answer, closing, if_true]
  | false =>
    simp only [Outcomes.answer, closing, Bool.false_eq_true, if_false]
    split
    next => rfl
    next => cases numberless
    next => exact unsaved (executeTxJob_unnumbered numberless closing)

theorem answer_prepared {attempt : Nat} {phase : Phase} {heard : Response} {buildSequence : Int}
    (prepared : ∀ buildSequence, phase = .prepare buildSequence →
      ∀ number ∈ outcomes.saved, number = buildSequence + 1)
    (next : executeTxJob request attempt phase heard = .prepare buildSequence) :
    ∀ number ∈ (outcomes.answer phase heard (executeTxJob request attempt phase heard)).saved,
      number = buildSequence + 1 := by
  have advance := executeTxJob_advance request attempt phase heard
  rw [next] at advance ⊢
  cases advance with
  | stays => exact prepared buildSequence rfl
  | saves nextSequence =>
    intro number saved
    cases saved
    omega

theorem answer_booked (booked : Booked cache system outcomes) (response : Response) :
    Booked cache (accountStep system (.answer response)) (outcomes.step system (.answer response)) := by
  cases job : system.current.job with
  | waiting | completed | failed =>
    rw [answer_idle (by simp [job])]
    simpa only [Outcomes.step, job] using booked
  | active attemptsMade phase =>
    obtain ⟨heard, rfl, current, _⟩ := accountStep_answer response job
    have unsaved := booked.unsaved
    rw [job] at unsaved
    simp only [Outcomes.step, job]
    constructor
    · rw [current]
      exact answer_cached _ _ _ booked.cached
    · intro numberless
      rw [current, settled_numbered] at numberless
      exact answer_unsaved unsaved numberless
    · intro attemptsMade' buildSequence active
      rw [current] at active
      obtain ⟨_, next⟩ := settled_active active
      refine answer_prepared ?_ next.symm
      intro buildSequence' preparing
      exact booked.prepared attemptsMade buildSequence' (by rw [job, preparing])

theorem step_booked (booked : Booked cache system outcomes) (input : AccountInput) :
    Booked cache (accountStep system input) (outcomes.step system input) := by
  cases input with
  | next request =>
    cases free : system.current.job.over && system.current.pending.isEmpty with
    | false =>
      simp only [accountStep, free, Bool.false_eq_true, if_false]
      exact booked
    | true =>
      obtain ⟨ended, _⟩ := Bool.and_eq_true_iff.mp free
      simp only [accountStep, free, if_true]
      refine ⟨booked.cached, fun _ => booked.unsaved ?_, ?_⟩
      · cases job : system.current.job with
        | waiting | completed | failed => rfl
        | active => simp [job, Job.over] at ended
      · intro attemptsMade buildSequence waiting
        cases waiting
  | process =>
    cases job : system.current.job with
    | waiting attemptsMade =>
      simp only [accountStep, jobStep, job]
      refine ⟨booked.cached, fun _ => booked.unsaved (by rw [job]; rfl), ?_⟩
      intro attemptsMade' buildSequence begun
      cases begun
    | active | completed | failed =>
      simp only [accountStep, jobStep, job]
      exact booked
  | answer response => exact answer_booked booked response
  | close index succeeds =>
    have same : (accountStep system (.close index succeeds)).current.cache = system.current.cache ∧
        (accountStep system (.close index succeeds)).current.job = system.current.job := by
      simp only [accountStep, jobStep]
      split
      · split <;> exact ⟨rfl, rfl⟩
      · exact ⟨rfl, rfl⟩
    refine ⟨?_, ?_, ?_⟩
    · rw [same.1]
      exact booked.cached
    · rw [same.2]
      exact booked.unsaved
    · rw [same.2]
      exact booked.prepared
  | expire index => exact ⟨booked.cached, booked.unsaved, booked.prepared⟩
  | forget =>
    refine ⟨rfl, fun _ => rfl, ?_⟩
    intro attemptsMade buildSequence _ number saved
    cases saved

theorem accountOutcomes_booked (request : TransactionRequest) (cache : Option Int) (start : Int)
    (inputs : List AccountInput) :
    Booked cache (accountRun request cache start inputs) (accountOutcomes request cache start inputs) := by
  induction inputs with
  | nil =>
    refine ⟨rfl, fun _ => rfl, ?_⟩
    intro attemptsMade buildSequence waiting
    cases waiting
  | cons input earlier ih => exact step_booked ih input

theorem Booked.left (booked : Booked cache system outcomes) {attemptsMade : Nat} {ledgerSequence : Int}
    (job : system.current.job = .active attemptsMade (.cached ledgerSequence)) :
    system.current.cache = leftOver cache outcomes.ended := by
  have unsaved := booked.unsaved (by rw [job]; rfl)
  have cached := booked.cached
  rwa [unsaved] at cached

theorem nextSequence_next {ledgerSequence : Int} {cache : Option Int} :
    nextSequence ledgerSequence cache = ledgerSequence + 1 ↔
      ∀ cachedSequence ∈ cache, cachedSequence ≤ ledgerSequence := by
  cases cache with
  | none => simp [nextSequence]
  | some cachedSequence =>
    simp only [nextSequence, Option.mem_def, Option.some.injEq, forall_eq']
    split <;> omega

theorem Ordered.used_iff (ordered : Ordered start system) (cachedSequence : Int) :
    cachedSequence ≤ start ∨ cachedSequence ∈ system.taken ↔
      cachedSequence ≤ system.current.ledgerSequence := by
  have started := ordered.started
  rw [ordered.taken]
  omega

theorem answer_inStep (ordered : Ordered start system) (booked : Booked cache system outcomes)
    (inStep : system.InStep) {response : Response}
    (used : Used cache start system outcomes.ended (.answer response)) :
    (accountStep system (.answer response)).InStep := by
  cases job : system.current.job with
  | waiting | completed | failed =>
    rw [answer_idle (by simp [job])]
    exact inStep
  | active attemptsMade phase =>
    obtain ⟨heard, heardIs, current, _⟩ := accountStep_answer response job
    intro phase' active number unsent
    rw [current] at active ⊢
    obtain ⟨rfl, same⟩ := settled_active active
    have advance := executeTxJob_advance system.request 1 phase heard
    rw [← same] at advance
    cases advance with
    | stays => exact inStep phase job number unsent
    | picks ledgerSequence sequence =>
      cases unsent
      -- What is heard is what the cache holds.
      cases response with
      | failed message => cases heardIs
      | done | account | cached | notSimulated | sent | status =>
        cases heardIs
        have loaded := ordered.loaded ledgerSequence job
        refine (nextSequence_next.mpr ?_).trans (by rw [loaded])
        intro cachedSequence member
        rw [booked.left job] at member
        rw [loaded]
        exact (ordered.used_iff cachedSequence).mp (used ledgerSequence job cachedSequence member)
    | saves nextSequence =>
      cases unsent
      rw [Int.sub_add_cancel]
      exact inStep _ job nextSequence rfl
    | begins | retries | resets | loads | prepares | throws | misses | rejected | submits | waits | exhausts
    | fails | records | succeeds | finishes | verifies => cases unsent

theorem step_inStep (ordered : Ordered start system) (booked : Booked cache system outcomes)
    (inStep : system.InStep) {input : AccountInput} (used : Used cache start system outcomes.ended input) :
    (accountStep system input).InStep := by
  cases input with
  | next request =>
    cases free : system.current.job.over && system.current.pending.isEmpty with
    | false =>
      simp only [accountStep, free, Bool.false_eq_true, if_false]
      exact inStep
    | true =>
      simp only [accountStep, free, if_true]
      exact nofun
  | process =>
    cases job : system.current.job with
    | waiting attemptsMade =>
      simp only [accountStep, jobStep, job]
      intro phase active number unsent
      cases active
      cases unsent
    | active | completed | failed =>
      simp only [accountStep, jobStep, job]
      exact inStep
  | answer response => exact answer_inStep ordered booked inStep used
  | close index succeeds =>
    rcases @close_cases system index succeeds with same | ⟨pending, job, _, _⟩
    · rw [same]
      exact inStep
    · intro phase active number unsent
      rw [job] at active
      have early : system.current.job.early = true := by
        rw [active]
        exact early_of_unsent unsent
      exact absurd (ordered.quiet early) pending
  | expire | forget => exact inStep

theorem used_of_inStep (ordered : Ordered start system) (booked : Booked cache system outcomes)
    {input : AccountInput} (inStep : (accountStep system input).InStep) :
    Used cache start system outcomes.ended input := by
  cases input with
  | next | process | close | expire | forget => trivial
  | answer response =>
    cases response with
    | failed message => trivial
    | done | account | cached | notSimulated | sent | status =>
      intro ledgerSequence job cachedSequence member
      rw [← booked.left job] at member
      rw [ordered.used_iff, ← ordered.loaded ledgerSequence job]
      refine nextSequence_next.mp ?_ cachedSequence member
      obtain ⟨heard, heardIs, current, _⟩ := accountStep_answer _ job
      cases heardIs
      have picked := inStep (.save (nextSequence ledgerSequence system.current.cache))
      rw [current] at picked
      rw [picked rfl _ rfl, ordered.loaded ledgerSequence job]

-- A first attempt whose simulation fails leaves a number that the ledger has not taken in, nor will before the
-- next job.
theorem simulation_leaves_unused (ordered : Ordered start system) (booked : Booked cache system outcomes)
    (inStep : system.InStep) {buildSequence number : Int}
    (job : system.current.job = .active 0 (.prepare buildSequence)) (saved : outcomes.saved = some number) :
    system.current.pending = [] ∧ ¬ (number ≤ start ∨ number ∈ system.taken) := by
  refine ⟨ordered.quiet (by rw [job]; rfl), ?_⟩
  have next := inStep _ job (buildSequence + 1) rfl
  have own := booked.prepared 0 buildSequence job number saved
  rw [ordered.used_iff]
  omega

end Steps

/-- The first attempts of the jobs keep in step with the ledger just as far as each of them comes after
attempts that have left over no unused number. -/
theorem numbers_in_step_iff (request : TransactionRequest) (cache : Option Int) (ledgerSequence : Int)
    (inputs : List AccountInput) :
    (∀ older, older <:+ inputs → (accountRun request cache ledgerSequence older).InStep) ↔
      ∀ input older, input :: older <:+ inputs →
        Used cache ledgerSequence (accountRun request cache ledgerSequence older)
          (accountOutcomes request cache ledgerSequence older).ended input := by
  constructor
  · intro inStep input older within
    exact used_of_inStep (accountRun_ordered ..) (accountOutcomes_booked ..) (inStep _ within)
  · intro used
    apply Run.along
    · intro phase active
      cases active
    · intro input older within inStep
      exact step_inStep (accountRun_ordered ..) (accountOutcomes_booked ..) inStep (used input older within)

-- The simulation of a job fails, and the next job reads the number that was saved for it, newest first.
def afterFailedSimulation : List AccountInput :=
  [ .answer .done, .answer (.account 0), .answer .done, .process, .next sampleRequest,
    .answer (.notSimulated "{}"), .answer .done, .answer .done, .answer (.account 0), .answer .done,
    .process ]

theorem failed_simulation_skips_number :
    ¬ ∀ older, older <:+ afterFailedSimulation → (accountRun sampleRequest none 5 older).InStep := by
  intro inStep
  have picked := inStep _ List.suffix_rfl (.save 7) ?_ 7 rfl
  · cases picked
  · rfl

end Delego.Wallet.TxQueue
