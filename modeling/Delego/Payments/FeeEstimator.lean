import Delego.Shared.Json
import Delego.Shared.Run

set_option autoImplicit false

namespace Delego.Payments.FeeEstimator

open Shared

inductive Percentile where
  | p50
  | p95
  | p99
  deriving DecidableEq

def Percentile.name : Percentile → String
  | .p50 => "p50"
  | .p95 => "p95"
  | .p99 => "p99"

inductive Source where
  | horizon
  | fallback
  deriving DecidableEq

structure FeeEstimate where
  source : Source
  baseFeeStroops : Number
  recommendedFeeStroops : Number
  percentile : Percentile
  fetchedAt : Int
  deriving DecidableEq

structure CacheEntry where
  estimate : FeeEstimate
  expiresAt : Int
  deriving DecidableEq

def defaultFallbackFee : Rat := 100

def cacheTtlMs : Int := 30 * 1000

def field (value : Option Json) (name : String) : Option Json :=
  match value with
  | some (.object fields) => fields.lookup name
  | _ => none

def number : Option Json → Option Number
  | some (.number value) => some value
  | _ => none

def maxFee (stats : Json) (percentile : Percentile) : Option Number :=
  number (field (field (some stats) "max_fee") percentile.name)

def isValidFeeStats (stats : Json) : Bool :=
  (number (field (some stats) "last_ledger")).isSome &&
    (number (field (some stats) "last_ledger_base_fee")).isSome &&
    (number (field (some stats) "ledger_capacity_usage")).isSome &&
    (maxFee stats .p50).isSome && (maxFee stats .p95).isSome && (maxFee stats .p99).isSome

def atLeast (fee : Rat) : Number → Number
  | .nan => .nan
  | .infinite true => .finite fee
  | .infinite false => .infinite false
  | .finite value => .finite (max value fee)

def createFallbackEstimate (percentile : Percentile) (fetchedAt : Int) : FeeEstimate where
  source := .fallback
  baseFeeStroops := .finite defaultFallbackFee
  recommendedFeeStroops := .finite defaultFallbackFee
  percentile
  fetchedAt

def horizonEstimate (stats : Json) (percentile : Percentile) (fetchedAt : Int) : FeeEstimate where
  source := .horizon
  baseFeeStroops := (number (field (some stats) "last_ledger_base_fee")).getD .nan
  recommendedFeeStroops := atLeast defaultFallbackFee ((maxFee stats percentile).getD .nan)
  percentile
  fetchedAt

def getCachedFeeEstimate (feeCache : Option CacheEntry) (now : Int) : Option FeeEstimate :=
  (feeCache.filter fun entry => now < entry.expiresAt).map CacheEntry.estimate

inductive Call where
  | awaiting (percentile : Percentile)
  | returned

structure Estimator where
  feeCache : Option CacheEntry
  calls : List Call

-- What the statistics come to: a failure is given by its message. The clock is read twice.
inductive Input where
  | estimate (percentile : Percentile) (now : Int)
  | respond (call : Nat) (stats : Except String Json) (fetchedAt now : Int)
  | clearFeeCache

structure Answer where
  percentile : Percentile
  estimate : FeeEstimate
  deriving DecidableEq

def step (estimator : Estimator) : Input → Option Answer × Estimator
  | .estimate percentile now =>
    match getCachedFeeEstimate estimator.feeCache now with
    | some estimate =>
      (some ⟨percentile, estimate⟩, { estimator with calls := estimator.calls ++ [.returned] })
    | none => (none, { estimator with calls := estimator.calls ++ [.awaiting percentile] })
  | .respond call stats fetchedAt now =>
    match estimator.calls[call]? with
    | some (.awaiting percentile) =>
      let calls := estimator.calls.set call .returned
      match stats with
      | .error _ =>
        (some ⟨percentile, createFallbackEstimate percentile fetchedAt⟩, { estimator with calls })
      | .ok stats =>
        if isValidFeeStats stats then
          let estimate := horizonEstimate stats percentile fetchedAt
          (some ⟨percentile, estimate⟩, ⟨some ⟨estimate, now + cacheTtlMs⟩, calls⟩)
        else (some ⟨percentile, createFallbackEstimate percentile fetchedAt⟩, { estimator with calls })
    | some .returned | none => (none, estimator)
  | .clearFeeCache => (none, { estimator with feeCache := none })

abbrev FeeReceipt := Receipt Estimator Input (Option Answer)

def final (inputs : List Input) : Estimator := Run.final step ⟨none, []⟩ inputs

def history (inputs : List Input) : List FeeReceipt := Run.history step ⟨none, []⟩ inputs

def Fetched (past : List FeeReceipt) (time : Int) (stats : Json) : Prop :=
  ∃ receipt ∈ past, ∃ call now percentile, receipt.input = .respond call (.ok stats) time now ∧
    receipt.before.calls[call]? = some (.awaiting percentile)

structure Answers (past : List FeeReceipt) (percentile : Percentile) (estimate : FeeEstimate) : Prop where
  asked : estimate.percentile = percentile
  horizon : estimate.source = .horizon → ∃ stats fee, Fetched past estimate.fetchedAt stats ∧
    isValidFeeStats stats = true ∧ maxFee stats percentile = some fee ∧
    estimate.recommendedFeeStroops = atLeast 100 fee
  fallback : estimate.source = .fallback → estimate.recommendedFeeStroops = .finite 100

def AllAnswered : List FeeReceipt → Prop
  | [] => True
  | receipt :: past =>
    (∀ answer, receipt.output = some answer → Answers (receipt :: past) answer.percentile answer.estimate) ∧
      AllAnswered past

-- A call finds a live entry that was made for another percentile.
def Crossed (receipt : FeeReceipt) : Prop :=
  ∃ percentile now entry, receipt.input = .estimate percentile now ∧
    receipt.before.feeCache = some entry ∧ now < entry.expiresAt ∧ entry.estimate.percentile ≠ percentile

section Answered

variable {past : List FeeReceipt} {receipt : FeeReceipt} {percentile : Percentile} {estimate : FeeEstimate}
  {estimator : Estimator}

theorem Answers.later (answers : Answers past percentile estimate) :
    Answers (receipt :: past) percentile estimate where
  asked := answers.asked
  horizon := by
    intro source
    obtain ⟨stats, fee, ⟨other, member, fetch⟩, rest⟩ := answers.horizon source
    exact ⟨stats, fee, ⟨other, .tail _ member, fetch⟩, rest⟩
  fallback := answers.fallback

theorem fallback_answers (past : List FeeReceipt) (percentile : Percentile) (fetchedAt : Int) :
    Answers past percentile (createFallbackEstimate percentile fetchedAt) where
  asked := rfl
  horizon := by
    intro source
    cases source
  fallback _ := rfl

theorem maxFee_valid {stats : Json} (valid : isValidFeeStats stats = true) (percentile : Percentile) :
    ∃ fee, maxFee stats percentile = some fee := by
  simp only [isValidFeeStats, Bool.and_eq_true] at valid
  cases percentile with
  | p50 => exact Option.isSome_iff_exists.mp valid.1.1.2
  | p95 => exact Option.isSome_iff_exists.mp valid.1.2
  | p99 => exact Option.isSome_iff_exists.mp valid.2

theorem horizon_answers {stats : Json} {fetchedAt : Int} (valid : isValidFeeStats stats = true)
    (fetched : Fetched past fetchedAt stats) :
    Answers past percentile (horizonEstimate stats percentile fetchedAt) where
  asked := rfl
  horizon _ := by
    obtain ⟨fee, held⟩ := maxFee_valid valid percentile
    refine ⟨stats, fee, fetched, valid, held, ?_⟩
    simp only [horizonEstimate, held, Option.getD_some, defaultFallbackFee]
  fallback := by
    intro source
    cases source

-- The cache holds an estimate that answers for its own percentile.
def CacheSound (past : List FeeReceipt) (estimator : Estimator) : Prop :=
  ∀ entry, estimator.feeCache = some entry → Answers past entry.estimate.percentile entry.estimate

theorem getCachedFeeEstimate_some {feeCache : Option CacheEntry} {now : Int}
    (found : getCachedFeeEstimate feeCache now = some estimate) :
    ∃ entry, feeCache = some entry ∧ now < entry.expiresAt ∧ entry.estimate = estimate := by
  obtain ⟨entry, held, same⟩ := Option.map_eq_some_iff.mp found
  obtain ⟨cached, live⟩ := Option.filter_eq_some_iff.mp held
  exact ⟨entry, cached, by simpa using live, same⟩

theorem cached_answers (sound : CacheSound past estimator) {now : Int}
    (found : getCachedFeeEstimate estimator.feeCache now = some estimate)
    (asks : receipt.input = .estimate percentile now) (before : receipt.before = estimator) :
    Answers (receipt :: past) percentile estimate ↔ ¬ Crossed receipt := by
  obtain ⟨entry, cached, live, rfl⟩ := getCachedFeeEstimate_some found
  constructor
  · rintro answers ⟨percentile', now', entry', asks', cached', _, other⟩
    rw [asks] at asks'
    cases asks'
    rw [before, cached] at cached'
    cases cached'
    exact other answers.asked
  · intro uncrossed
    by_cases same : entry.estimate.percentile = percentile
    · rw [← same]
      exact (sound entry cached).later
    · exact absurd ⟨percentile, now, entry, asks, by rw [before, cached], live, same⟩ uncrossed

theorem CacheSound.later (sound : CacheSound past estimator) : CacheSound (receipt :: past) estimator :=
  fun entry cached => (sound entry cached).later

structure StepAnswers (past : List FeeReceipt) (receipt : FeeReceipt) : Prop where
  answered : (∀ answer, receipt.output = some answer →
    Answers (receipt :: past) answer.percentile answer.estimate) ↔ ¬ Crossed receipt
  sound : CacheSound (receipt :: past) receipt.after

theorem uncrossed_of_respond {call : Nat} {stats : Except String Json} {fetchedAt now : Int}
    (responds : receipt.input = .respond call stats fetchedAt now) : ¬ Crossed receipt := by
  rintro ⟨percentile, now', entry, asks, _⟩
  rw [responds] at asks
  cases asks

theorem estimate_answers (sound : CacheSound past estimator) (percentile : Percentile) (now : Int) :
    StepAnswers past (Run.observe step estimator (.estimate percentile now)) := by
  have after : (step estimator (.estimate percentile now)).2.feeCache = estimator.feeCache := by
    simp only [step]
    split
    · rfl
    · rfl
  constructor
  · cases found : getCachedFeeEstimate estimator.feeCache now with
    | some estimate =>
      have output : (Run.observe step estimator (.estimate percentile now)).output =
          some ⟨percentile, estimate⟩ := by
        simp only [Run.observe, step, found]
      rw [← cached_answers sound found rfl rfl, output]
      exact ⟨fun answers => answers _ rfl, by rintro answers _ ⟨⟩; exact answers⟩
    | none =>
      have output : (Run.observe step estimator (.estimate percentile now)).output = none := by
        simp only [Run.observe, step, found]
      rw [output]
      constructor
      · rintro _ ⟨percentile', now', entry, asks, cached, live, _⟩
        cases asks
        have held : estimator.feeCache = some entry := cached
        simp only [getCachedFeeEstimate, held, Option.filter_some, live, decide_true, if_true] at found
        cases found
      · rintro _ _ ⟨⟩
  · intro entry cached
    exact sound.later entry (after.symm.trans cached)

theorem respond_answers (sound : CacheSound past estimator) (call : Nat) (stats : Except String Json)
    (fetchedAt now : Int) :
    StepAnswers past (Run.observe step estimator (.respond call stats fetchedAt now)) := by
  have uncrossed : ¬ Crossed (Run.observe step estimator (.respond call stats fetchedAt now)) :=
    uncrossed_of_respond rfl
  cases waiting : estimator.calls[call]? with
  | none =>
    simp only [Run.observe, step, waiting] at uncrossed ⊢
    exact ⟨⟨fun _ => uncrossed, by rintro _ _ ⟨⟩⟩, sound.later⟩
  | some entry =>
    cases entry with
    | returned =>
      simp only [Run.observe, step, waiting] at uncrossed ⊢
      exact ⟨⟨fun _ => uncrossed, by rintro _ _ ⟨⟩⟩, sound.later⟩
    | awaiting percentile =>
      cases stats with
      | error message =>
        simp only [Run.observe, step, waiting] at uncrossed ⊢
        refine ⟨⟨fun _ => uncrossed, ?_⟩, sound.later⟩
        rintro _ _ ⟨⟩
        exact fallback_answers _ percentile fetchedAt
      | ok stats =>
        by_cases valid : isValidFeeStats stats = true
        · have fetched : Fetched
              (Run.observe step estimator (.respond call (.ok stats) fetchedAt now) :: past) fetchedAt
              stats :=
            ⟨_, .head _, call, now, percentile, rfl, waiting⟩
          have answers := @horizon_answers _ percentile _ _ valid fetched
          simp only [Run.observe, step, waiting, valid, if_true] at uncrossed answers ⊢
          refine ⟨⟨fun _ => uncrossed, ?_⟩, ?_⟩
          · rintro _ _ ⟨⟩
            exact answers
          · rintro _ ⟨⟩
            exact answers
        · simp only [Run.observe, step, waiting, valid] at uncrossed ⊢
          refine ⟨⟨fun _ => uncrossed, ?_⟩, sound.later⟩
          rintro _ _ ⟨⟩
          exact fallback_answers _ percentile fetchedAt

theorem step_answers (sound : CacheSound past estimator) (input : Input) :
    StepAnswers past (Run.observe step estimator input) := by
  cases input with
  | estimate percentile now => exact estimate_answers sound percentile now
  | respond call stats fetchedAt now => exact respond_answers sound call stats fetchedAt now
  | clearFeeCache =>
    refine ⟨⟨?_, by rintro _ _ ⟨⟩⟩, by rintro _ ⟨⟩⟩
    rintro _ ⟨_, _, _, asks, _⟩
    cases asks

/-- The estimates of a run answer what was asked exactly when no call finds a live entry that was made
for another percentile. -/
theorem estimates_answer_iff (inputs : List Input) :
    AllAnswered (history inputs) ↔ ∀ receipt ∈ history inputs, ¬ Crossed receipt := by
  have kept : CacheSound (history inputs) (final inputs) ∧
      (AllAnswered (history inputs) ↔ ∀ receipt ∈ history inputs, ¬ Crossed receipt) := by
    apply Run.invariant step ⟨none, []⟩ fun past estimator => CacheSound past estimator ∧
      (AllAnswered past ↔ ∀ receipt ∈ past, ¬ Crossed receipt)
    · refine ⟨?_, ?_⟩
      · rintro _ ⟨⟩
      · simp [AllAnswered]
    · rintro past estimator input ⟨sound, earlier⟩
      have stepped := step_answers sound input
      exact ⟨stepped.sound, by rw [AllAnswered, List.forall_mem_cons, stepped.answered, earlier]⟩
  exact kept.2

end Answered

section Sample

def sampleStats : Json := .object
  [ ("last_ledger", .number (.finite 1)),
    ("last_ledger_base_fee", .number (.finite 100)),
    ("ledger_capacity_usage", .number (.finite 0)),
    ("max_fee", .object
      [("p50", .number (.finite 600)), ("p95", .number (.finite 1100)), ("p99", .number (.finite 2000))]) ]

-- Newest first: the fee for `p99` is asked for one second after the one for `p50`.
def sampleCalls : List Input :=
  [.estimate .p99 1000, .respond 0 (.ok sampleStats) 0 0, .estimate .p50 0]

theorem percentiles_crossed : ¬ AllAnswered (history sampleCalls) := by
  intro answered
  have answers := answered.1 ⟨.p99, horizonEstimate sampleStats .p50 0⟩ (by decide +kernel)
  cases answers.asked

end Sample

end Delego.Payments.FeeEstimator
