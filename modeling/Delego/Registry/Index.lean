import Delego.Registry.Step

set_option autoImplicit false

namespace Delego.Registry

open Shared Soroban

variable {receipt : CallReceipt} {past : List CallReceipt} {s : Storage} {owner : Address} {id : U64}
  {record : DelegationRecord}

def resets (receipt : CallReceipt) : Bool :=
  match receipt.input.call, receipt.output with
  | .initializeContract _, .ok _ => true
  | _, _ => false

/-- The contract was initialized when an id had already been issued. -/
def ResetLate : List CallReceipt → Prop
  | [] => False
  | receipt :: earlier => ResetLate earlier ∨ (resets receipt = true ∧ issued earlier ≠ [])

def CreatesInTime : List CallReceipt → Prop
  | [] => True
  | receipt :: earlier => CreatesInTime earlier ∧ (created receipt ≠ none → ¬ ResetLate earlier)

structure IndexSound (receipts : List CallReceipt) (s : Storage) : Prop where
  distinct : (issued receipts).Nodup
  kept : ∀ receipt ∈ receipts, ∀ id record, receipt.before.delegation id = some record →
    ∃ status, receipt.after.delegation id = some { record with status }
  stored : ∀ id, (s.delegation id).isSome = true ↔ id ∈ issued receipts
  keyed : ∀ id record, s.delegation id = some record → record.id = id
  listed : ∀ owner, getDelegationsByOwner s owner =
    ((issued receipts).filterMap s.delegation).filter fun record => record.owner = owner

def owns (s : Storage) (owner : Address) (id : U64) : Bool :=
  (s.delegation id).any fun record => record.owner = owner

def Owned (receipts : List CallReceipt) (s : Storage) : Prop :=
  ∀ owner, (s.userDelegations owner).getD [] = (issued receipts).filter (owns s owner)

theorem Owned.listed (owned : Owned past s) (owner : Address) : getDelegationsByOwner s owner =
    ((issued past).filterMap s.delegation).filter fun record => record.owner = owner := by
  rw [getDelegationsByOwner, owned owner, List.filterMap_filter, List.filter_filterMap]
  congr 1
  funext id
  cases found : s.delegation id with
  | none => simp
  | some record => by_cases ours : record.owner = owner <;> simp [owns, found, ours, Option.filter]

structure Counter (receipts : List CallReceipt) (s : Storage) : Prop where
  start : issued receipts = [] → s.next.toInt = 1
  first : issued receipts ≠ [] → .lit 1 ∈ issued receipts
  ahead : ¬ ResetLate receipts → ∀ id ∈ issued receipts, id.toInt < s.next.toInt
  behind : CreatesInTime receipts → ResetLate receipts → s.next.toInt = 1

theorem counter_other (counter : Counter past receipt.before) (none : created receipt = none)
    (next : receipt.after.next = receipt.before.next) (plain : resets receipt = false) :
    Counter (receipt :: past) receipt.after where
  start := by simpa [issued_other none, next] using counter.start
  first := by simpa [issued_other none] using counter.first
  ahead timely := by
    rw [issued_other none, next]
    exact counter.ahead fun late => timely (.inl late)
  behind inTime late := by
    rw [next]
    refine counter.behind inTime.1 (late.resolve_right ?_)
    simp [plain]

theorem counter_reset (counter : Counter past receipt.before) (none : created receipt = none)
    (next : receipt.after.next.toInt = 1) (reset : resets receipt = true) :
    Counter (receipt :: past) receipt.after where
  start _ := next
  first := by simpa [issued_other none] using counter.first
  ahead timely := by
    have unissued : issued past = [] := by
      by_contra some
      exact timely (.inr ⟨reset, some⟩)
    simp [issued_other none, unissued]
  behind _ _ := next

theorem counter_created {creation : Creation} (counter : Counter past receipt.before)
    (new : created receipt = some creation) (here : creation.id = receipt.before.next)
    (next : receipt.after.next.toInt = receipt.before.next.toInt + 1)
    (plain : resets receipt = false) : Counter (receipt :: past) receipt.after where
  start := by simp [issued_created new]
  first _ := by
    rw [issued_created new, List.mem_append]
    by_cases unissued : issued past = []
    · refine .inr (List.mem_singleton.mpr ?_)
      exact MachineInt.ext (by rw [here, counter.start unissued, MachineInt.lit_toInt])
    · exact .inl (counter.first unissued)
  ahead timely id member := by
    rw [issued_created new, List.mem_append, List.mem_singleton] at member
    rcases member with earlier | rfl
    · have := counter.ahead (fun late => timely (.inl late)) id earlier
      omega
    · rw [here]
      omega
  behind inTime late := by
    have early := inTime.2 (by simp [new])
    simp [ResetLate, early, plain] at late

theorem receipt_counter (observed : Observed receipt) (counter : Counter past receipt.before) :
    Counter (receipt :: past) receipt.after := by
  cases observed with
  | failed => exact counter_other counter (by simp [created]) rfl (by simp [resets])
  | accepted transition =>
    cases transition with
    | initialized => exact counter_reset counter rfl rfl rfl
    | created _ next => exact counter_created counter rfl rfl next rfl
    | changed _ _ change => cases change <;> exact counter_other counter rfl rfl rfl

theorem empty_counter : Counter [] .empty where
  start _ := rfl
  first := by simp [issued]
  ahead := by simp [issued]
  behind _ late := late.elim

theorem history_counter (inputs : List (Invocation Call)) :
    Counter (Run.history step .empty inputs) (Run.final step .empty inputs) := by
  apply Run.invariant step .empty Counter empty_counter
  intro past s input counter
  exact receipt_counter (observe_observed s input) counter

structure Restated (before after : Storage) : Prop where
  absent : ∀ id, before.delegation id = none → after.delegation id = none
  kept : ∀ id record, before.delegation id = some record →
    ∃ status, after.delegation id = some { record with status }

theorem restated_same {before after : Storage} (same : after.delegation = before.delegation) :
    Restated before after where
  absent id missing := by rw [same, missing]
  kept id record found := ⟨record.status, by rw [same, found]⟩

theorem restated_withStatus {status : DelegationStatus} (found : s.delegation id = some record) :
    Restated s (s.withStatus id record status) where
  absent other missing := by
    have different : other ≠ id := by
      intro same
      subst same
      cases found.symm.trans missing
    simp [Storage.withStatus, Function.update_of_ne different, missing]
  kept other held present := by
    by_cases same : other = id
    · subst same
      cases found.symm.trans present
      exact ⟨status, by simp [Storage.withStatus]⟩
    · exact ⟨held.status, by simp [Storage.withStatus, Function.update_of_ne same, present]⟩

theorem Restated.isSome {s' : Storage} (restated : Restated s s') (id : U64) :
    (s'.delegation id).isSome = (s.delegation id).isSome := by
  cases found : s.delegation id with
  | none => simp [restated.absent id found]
  | some record =>
    obtain ⟨status, present⟩ := restated.kept id record found
    simp [present]

theorem Restated.owns {s' : Storage} (restated : Restated s s') (owner : Address) (id : U64) :
    Registry.owns s' owner id = Registry.owns s owner id := by
  cases found : s.delegation id with
  | none => simp [Registry.owns, found, restated.absent id found]
  | some record =>
    obtain ⟨status, present⟩ := restated.kept id record found
    simp [Registry.owns, found, present]

theorem Restated.keyed {s' : Storage} (restated : Restated s s')
    (keyed : ∀ id record, s.delegation id = some record → record.id = id)
    (found : s'.delegation id = some record) : record.id = id := by
  cases earlier : s.delegation id with
  | none => cases found.symm.trans (restated.absent id earlier)
  | some held =>
    obtain ⟨status, present⟩ := restated.kept id held earlier
    cases found.symm.trans present
    exact keyed id held earlier

theorem index_restated (sound : IndexSound past receipt.before) (owned : Owned past receipt.before)
    (none : created receipt = none) (restated : Restated receipt.before receipt.after)
    (lists : receipt.after.userDelegations = receipt.before.userDelegations) :
    IndexSound (receipt :: past) receipt.after ∧ Owned (receipt :: past) receipt.after := by
  have owned' : Owned (receipt :: past) receipt.after := by
    intro owner
    rw [lists, owned owner, issued_other none]
    exact List.filter_congr fun id _ => (restated.owns owner id).symm
  refine ⟨?_, owned'⟩
  constructor
  case distinct =>
    simpa [issued_other none] using sound.distinct
  case kept =>
    intro seen member id record found
    rcases List.mem_cons.mp member with rfl | member
    · exact restated.kept id record found
    · exact sound.kept seen member id record found
  case stored =>
    intro id
    rw [issued_other none, restated.isSome, sound.stored]
  case keyed =>
    intro id record found
    exact restated.keyed sound.keyed found
  case listed => exact owned'.listed

theorem index_created {creation : Creation} (sound : IndexSound past receipt.before)
    (owned : Owned past receipt.before) (new : created receipt = some creation)
    (fresh : creation.id ∉ issued past) (key : record.id = creation.id)
    (records : receipt.after.delegation =
      Function.update receipt.before.delegation creation.id (some record))
    (lists : receipt.after.userDelegations = Function.update receipt.before.userDelegations record.owner
      (some ((receipt.before.userDelegations record.owner).getD [] ++ [creation.id]))) :
    IndexSound (receipt :: past) receipt.after ∧ Owned (receipt :: past) receipt.after := by
  have other (id : U64) (member : id ∈ issued past) :
      receipt.after.delegation id = receipt.before.delegation id := by
    rw [records, Function.update_of_ne]
    intro same
    exact fresh (same ▸ member)
  have owned' : Owned (receipt :: past) receipt.after := by
    intro owner
    have earlier : (issued past).filter (owns receipt.after owner) =
        (issued past).filter (owns receipt.before owner) :=
      List.filter_congr fun id member => by rw [owns, owns, other id member]
    have last : owns receipt.after owner creation.id = decide (record.owner = owner) := by
      simp [owns, records]
    rw [issued_created new, List.filter_append, earlier, ← owned owner, lists]
    by_cases ours : record.owner = owner
    · subst ours
      simp [last]
    · simp [last, ours, Function.update_of_ne (Ne.symm ours)]
  refine ⟨?_, owned'⟩
  constructor
  case distinct =>
    rw [issued_created new]
    exact List.concat_eq_append ▸ sound.distinct.concat fresh
  case kept =>
    intro seen member id held before
    rcases List.mem_cons.mp member with rfl | member
    · have stored := (sound.stored id).mp (by simp [before])
      exact ⟨held.status, by rw [other id stored, before]⟩
    · exact sound.kept seen member id held before
  case stored =>
    intro id
    rw [issued_created new, List.mem_append, List.mem_singleton, records]
    by_cases same : id = creation.id
    · simp [same]
    · simp [same, sound.stored]
  case keyed =>
    intro id held present
    rw [records] at present
    by_cases same : id = creation.id
    · subst same
      rw [Function.update_self] at present
      cases present
      exact key
    · rw [Function.update_of_ne same] at present
      exact sound.keyed id held present
  case listed => exact owned'.listed

theorem receipt_index (observed : Observed receipt) (counter : Counter past receipt.before)
    (inTime : CreatesInTime (receipt :: past)) (sound : IndexSound past receipt.before)
    (owned : Owned past receipt.before) :
    IndexSound (receipt :: past) receipt.after ∧ Owned (receipt :: past) receipt.after := by
  cases observed with
  | failed => exact index_restated sound owned (by simp [created]) (restated_same rfl) rfl
  | @accepted before _ _ _ _ _ transition =>
    cases transition with
    | initialized => exact index_restated sound owned rfl (restated_same rfl) rfl
    | changed found _ change =>
      cases change <;> exact index_restated sound owned rfl (restated_withStatus found) rfl
    | created =>
      -- The counter is ahead of every issued id unless a late initialization has set it back.
      have early := inTime.2 (by simp [created])
      have fresh : before.next ∉ issued past := by
        intro member
        have := counter.ahead early _ member
        dsimp only at this
        omega
      exact index_created sound owned rfl fresh rfl rfl rfl

theorem empty_index : IndexSound [] .empty ∧ Owned [] .empty := by
  have owned : Owned [] .empty := fun _ => rfl
  refine ⟨⟨List.nodup_nil, by simp, ?_, ?_, owned.listed⟩, owned⟩
  · simp [Storage.empty, issued]
  · simp [Storage.empty]

theorem history_index (inputs : List (Invocation Call))
    (inTime : CreatesInTime (Run.history step .empty inputs)) :
    IndexSound (Run.history step .empty inputs) (Run.final step .empty inputs) ∧
      Owned (Run.history step .empty inputs) (Run.final step .empty inputs) := by
  induction inputs with
  | nil => exact empty_index
  | cons input earlier ih =>
    obtain ⟨sound, owned⟩ := ih inTime.1
    exact receipt_index (observe_observed _ input) (history_counter earlier) inTime sound owned

theorem created_id {creation : Creation} (observed : Observed receipt)
    (new : created receipt = some creation) : creation.id = receipt.before.next := by
  cases observed with
  | failed => simp [created] at new
  | accepted transition =>
    cases transition with
    | initialized => cases new
    | changed _ _ change => cases change <;> cases new
    | created =>
      cases new
      rfl

theorem ResetLate.issued (late : ResetLate past) : issued past ≠ [] := by
  induction past with
  | nil => exact late.elim
  | cons receipt earlier ih =>
    have some : Registry.issued earlier ≠ [] := late.elim ih And.right
    simp only [Registry.issued, ne_eq, List.reverse_eq_nil_iff, List.map_eq_nil_iff] at some ⊢
    intro none
    rw [List.filterMap_cons] at none
    split at none
    · exact some none
    · cases none

-- The first creation after a late initialization issues the id 1 again.
theorem distinct_inTime (inputs : List (Invocation Call))
    (distinct : (issued (Run.history step .empty inputs)).Nodup) :
    CreatesInTime (Run.history step .empty inputs) := by
  induction inputs with
  | nil => trivial
  | cons input earlier ih =>
    have counter := history_counter earlier
    cases new : created (Run.observe step (Run.final step .empty earlier) input) with
    | none =>
      rw [Run.history, issued_other new] at distinct
      exact ⟨ih distinct, fun creates => absurd new creates⟩
    | some creation =>
      rw [Run.history, issued_created new, List.nodup_append] at distinct
      have inTime := ih distinct.1
      refine ⟨inTime, fun _ late => ?_⟩
      have reused : creation.id = .lit 1 := by
        rw [created_id (observe_observed _ input) new]
        exact MachineInt.ext (counter.behind inTime late)
      exact distinct.2.2 _ (counter.first late.issued) _ (List.mem_singleton_self _) reused.symm

/-- The index is sound in exactly those runs that create nothing after a late initialization. -/
theorem indexSound_iff (inputs : List (Invocation Call)) :
    IndexSound (Run.history step .empty inputs) (Run.final step .empty inputs) ↔
      CreatesInTime (Run.history step .empty inputs) :=
  ⟨fun sound => distinct_inTime inputs sound.distinct, fun inTime => (history_index inputs inTime).1⟩

def sampleCreation (sequence : U32) (owner : Address) : Invocation Call :=
  ⟨{ sequence, timestamp := .lit 500, signers := [owner] },
    .createDelegation owner 7 (.sample 8) "agent" (.lit 100)⟩

def lateInitialization : List (Invocation Call) :=
  [ sampleCreation (.lit 12) (.sample 2),
    ⟨{ sequence := .lit 11, timestamp := .lit 500, signers := [] },
      .initializeContract (.sample 9)⟩,
    sampleCreation (.lit 10) (.sample 1) ]

theorem lateInitialization_reissues : ¬ ∀ inputs,
    IndexSound (Run.history step .empty inputs) (Run.final step .empty inputs) := by
  intro every
  have distinct := (every lateInitialization).distinct
  revert distinct
  decide

end Delego.Registry
