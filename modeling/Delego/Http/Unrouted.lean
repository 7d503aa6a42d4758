import Delego.Http.Services
import Delego.Payments.Arbiters
import Delego.Purchase.Reconcile

set_option autoImplicit false

namespace Delego.Http

open Shared

-- The requests for an escrow that are sent to the wallet service.
def escrowStatusPath (escrowId : String) : String :=
  "/escrow/" ++ UrlPath.encodeURIComponent escrowId ++ "/status"

def disputeResolvePath (escrowId : String) : String :=
  "/escrow/" ++ UrlPath.encodeURIComponent escrowId ++ "/dispute-resolve"

def answered (service : Service) (method target : String) : Answer Endpoint :=
  dispatch (routes service) method (UrlPath.pathname target)

section Escrows

variable {escrowId action : String}

theorem plain_clean {segment : List Char} (clean : ∀ c ∈ segment, UrlPath.plain c = true) :
    '/' ∉ segment := by
  intro member
  have slash := clean '/' member
  revert slash
  decide

theorem escrow_target (escrowId action : String) :
    "/escrow/" ++ UrlPath.encodeURIComponent escrowId ++ "/" ++ action =
      String.ofList (UrlPath.joined
        ["escrow".toList, (UrlPath.encodeURIComponent escrowId).toList, action.toList]) := by
  apply String.toList_inj.mp
  simp [UrlPath.joined]

def dotted (segment : List Char) : Prop :=
  UrlPath.undotted segment = ['.'] ∨ UrlPath.undotted segment = ['.', '.']

instance (segment : List Char) : Decidable (dotted segment) :=
  inferInstanceAs (Decidable (_ ∨ _))

theorem resolve_between {front middle back : List Char}
    (clean : ∀ segment ∈ [front, middle, back], ∀ c ∈ segment, UrlPath.plain c = true)
    (named : ¬ dotted front) (named' : ¬ dotted back) :
    ∃ head rest, UrlPath.resolveFrom [] [front, middle, back] = head :: rest ∧
      (head = front ∨ head = back) ∧ head :: rest ⊆ [front, middle, back] := by
  obtain ⟨notHere, notUp⟩ := not_or.mp named
  obtain ⟨notHere', notUp'⟩ := not_or.mp named'
  have start := UrlPath.escaped_plain (clean front (by simp))
  have between := UrlPath.escaped_plain (clean middle (by simp))
  have ending := UrlPath.escaped_plain (clean back (by simp))
  simp only [UrlPath.resolveFrom, notHere, notUp, notHere', notUp', if_false, start, between, ending]
  by_cases up : UrlPath.undotted middle = ['.', '.']
  · exact ⟨back, [], by simp [up], .inr rfl, by simp⟩
  · by_cases here : UrlPath.undotted middle = ['.']
    · exact ⟨front, [back], by simp [here], .inl rfl, by simp⟩
    · exact ⟨front, [middle, back], by simp [up, here], .inl rfl, by simp⟩

theorem escrow_plain : ∀ c ∈ "escrow".toList, UrlPath.plain c = true := by
  simp [UrlPath.plain_iff]

theorem escrow_pathname (escrowId : String) (plain : UrlPath.plainText action) (named : ¬ dotted action.toList) :
    ∃ head rest, UrlPath.pathname ("/escrow/" ++ UrlPath.encodeURIComponent escrowId ++ "/" ++ action) =
        String.ofList (UrlPath.joined (head :: rest)) ∧
      (head = "escrow".toList ∨ head = action.toList) ∧ ∀ segment ∈ head :: rest, '/' ∉ segment := by
  have clean : ∀ segment ∈
      ["escrow".toList, (UrlPath.encodeURIComponent escrowId).toList, action.toList],
        ∀ c ∈ segment, UrlPath.plain c = true :=
    List.forall_mem_cons.mpr ⟨escrow_plain, List.forall_mem_cons.mpr
      ⟨UrlPath.encoded_plain escrowId, List.forall_mem_singleton.mpr plain⟩⟩
  obtain ⟨head, rest, resolved, first, among⟩ := resolve_between clean (by decide) named
  refine ⟨head, rest, ?_, first, fun segment member => plain_clean (clean segment (among member))⟩
  rw [escrow_target, UrlPath.pathname_joined clean, resolved]

def Foreign (service : Service) (head head' : List Char) : Prop :=
  ∀ route ∈ routes service, route.start.any (fun start => start ≠ head ∧ start ≠ head') = true

instance (service : Service) (head head' : List Char) : Decidable (Foreign service head head') :=
  inferInstanceAs (Decidable (∀ _ ∈ _, _))

theorem health_head {head : List Char} {rest : List (List Char)}
    (clean : ∀ segment ∈ head :: rest, '/' ∉ segment)
    (same : String.ofList (UrlPath.joined (head :: rest)) = "/health") : head = "health".toList := by
  have chars := congrArg (fun text : String => text.toList.splitOn '/') same
  simp only [String.toList_ofList, splitOn_joined clean] at chars
  have split : "/health".toList.splitOn '/' = [[], "health".toList] := by decide
  rw [split] at chars
  simp only [List.cons.injEq, true_and] at chars
  exact chars.1

theorem escrow_unrouted {service : Service} (method escrowId : String) (plain : UrlPath.plainText action)
    (named : ¬ dotted action.toList) (unhealthy : action ≠ "health")
    (foreign : Foreign service "escrow".toList action.toList) :
    ∃ message, answered service method
      ("/escrow/" ++ UrlPath.encodeURIComponent escrowId ++ "/" ++ action) = .notFound message := by
  obtain ⟨head, rest, path, first, clean⟩ := escrow_pathname escrowId plain named
  unfold answered
  rw [path, dispatch_unmatched ?_ (routes_unambiguous service)]
  · refine ⟨_, if_neg ?_⟩
    intro asked
    have same := health_head clean asked.2
    rcases first with escrow | other
    · rw [escrow] at same
      revert same
      decide
    · rw [other] at same
      exact unhealthy (String.toList_inj.mp same)
  · intro route member params
    obtain ⟨start, starts, other⟩ := (Option.any_eq_true _ _).mp (foreign route member)
    refine head_unaddressed starts ?_ clean
    simp only [decide_eq_true_eq] at other
    rcases first with escrow | final
    · rw [escrow]
      exact other.1
    · rw [final]
      exact other.2

end Escrows

section Reconciler

open Purchase

def bodyOf (reply : Route Endpoint → Params → Option Json) : Answer Endpoint → Option Json
  | .handled route params => reply route params
  | .health => some (.object [("data", .object [("status", .string "ok")]), ("error", .null)])
  | .notFound _ => none

def walletAnswers (reply : Route Endpoint → Params → Option Json) (escrowId : String) : Option Json :=
  bodyOf reply (answered .wallet "GET" (escrowStatusPath escrowId))

theorem status_unrouted (escrowId : String) :
    ∃ message, answered .wallet "GET" (escrowStatusPath escrowId) = .notFound message := by
  have slash : "/" ++ "status" = "/status" := by decide
  rw [escrowStatusPath, ← slash, ← String.append_assoc]
  exact escrow_unrouted "GET" escrowId (by decide +kernel) (by decide +kernel) (by decide)
    (by decide +kernel)

theorem walletAnswers_none (reply : Route Endpoint → Params → Option Json) (escrowId : String) :
    walletAnswers reply escrowId = none := by
  obtain ⟨message, missing⟩ := status_unrouted escrowId
  rw [walletAnswers, missing, bodyOf]

/-- The wallet service has no route for the status of an escrow, so a pass of the reconciler takes every
escrow for missing, finds nothing to do and changes nothing. -/
theorem reconciler_never_corrects (reply : Route Endpoint → Params → Option Json)
    (attempts : String → Attempt) (workflows : PurchaseWorkflows) :
    reconcileWorkflows (walletAnswers reply) attempts workflows = workflows.table ∧
      ∀ finding ∈ findings (walletAnswers reply) workflows,
        finding.escrowStatus = .notFound ∧ finding.recommendedAction = .noop := by
  have missing (row : WorkflowSnapshot) : escrowStatusOf (walletAnswers reply) row = .notFound := by
    unfold escrowStatusOf
    cases Text.truthy row.context.escrowId with
    | none => rfl
    | some escrowId => simp [walletAnswers_none, fetchOnChainEscrowStatus]
  constructor
  · funext orderId
    rw [reconcileWorkflows_row]
    cases workflows.table orderId with
    | none => rfl
    | some row => simp [corrected, missing]
  · intro finding member
    obtain ⟨row, among, same⟩ := List.mem_map.mp member
    have running := (mem_inProgress.mp among).2
    subst same
    refine ⟨missing row, ?_⟩
    have action : (findingOf (walletAnswers reply) row).recommendedAction =
        (recommend row.state (escrowStatusOf (walletAnswers reply) row)).1 := rfl
    rw [action, missing]
    cases state : row.state <;> first | rfl | simp [state, PurchaseState.terminal] at running

end Reconciler

section Disputes

open Payments.Arbiters

variable {threshold : Number}

def responseOf (reply : Route Endpoint → Params → Response) : Answer Endpoint → Response
  | .handled route params => reply route params
  | .health => .ok
  | .notFound _ => .refused 404

def walletResponse (reply : Route Endpoint → Params → Response) (escrowId : String) : Response :=
  responseOf reply (answered .wallet "POST" (disputeResolvePath escrowId))

def Routed (threshold : Number) (reply : Route Endpoint → Params → Response) (inputs : List Input) : Prop :=
  ∀ receipt ∈ history threshold inputs, ∀ id response escrowId, receipt.input = .respond id response →
    receipt.before.calls[id]? = some (.submitting escrowId) →
      response = walletResponse reply escrowId ∨ ∃ message, response = .failed message

theorem dispute_unrouted (escrowId : String) :
    ∃ message, answered .wallet "POST" (disputeResolvePath escrowId) = .notFound message := by
  have slash : "/" ++ "dispute-resolve" = "/dispute-resolve" := by decide
  rw [disputeResolvePath, ← slash, ← String.append_assoc]
  exact escrow_unrouted "POST" escrowId (by decide +kernel) (by decide +kernel) (by decide)
    (by decide +kernel)

theorem walletResponse_refused (reply : Route Endpoint → Params → Response) (escrowId : String) :
    walletResponse reply escrowId = .refused 404 := by
  obtain ⟨message, missing⟩ := dispute_unrouted escrowId
  rw [walletResponse, missing, responseOf]

def Unresolved (system : System) : Prop :=
  ∀ escrowId state, system.disputes escrowId = some state → state.status ≠ .resolved

theorem Unresolved.update {system : System} {calls : List Call} {escrowId : String}
    {state : DisputeResolutionState} (unresolved : Unresolved system) (own : state.status ≠ .resolved) :
    Unresolved ⟨Function.update system.disputes escrowId (some state), calls⟩ := by
  intro other held found
  by_cases same : other = escrowId
  · subst same
    have written : state = held := by simpa using found
    rw [← written]
    exact own
  · exact unresolved other held (by simpa [same] using found)

theorem Unresolved.finish {system : System} {escrowId : String} {status : Status} (id : Nat)
    (result : DisputeResolutionState → Except String DisputeResolutionState)
    (unresolved : Unresolved system) (other : status ≠ .resolved) :
    Unresolved (system.finish id escrowId status result) := by
  unfold System.finish
  cases held : system.disputes escrowId with
  | none => exact unresolved
  | some state => exact unresolved.update other

theorem step_unresolved {system : System} (input : Input) (unresolved : Unresolved system)
    (refused : ∀ id escrowId, input = .respond id .ok → system.calls[id]? ≠ some (.submitting escrowId)) :
    Unresolved (step threshold system input).2 ∧
      ∀ escrowId, (step threshold system input).1 ≠ some (.accepted escrowId) := by
  cases input with
  | collect escrowId arbiter signature now =>
    simp only [step]
    cases collected : collectArbiterSignature threshold system.disputes escrowId arbiter signature now with
    | error message => exact ⟨unresolved, by simp⟩
    | ok state =>
      obtain ⟨before, same, opened, status, _⟩ := collectArbiterSignature_ok collected
      have unclosed : state.status ≠ .resolved := by
        rw [status]
        intro resolved
        simp [Status.closed, resolved] at opened
      dsimp only
      split
      · exact ⟨unresolved.update (by simp), by simp⟩
      · exact ⟨unresolved.update unclosed, by simp⟩
  | respond id response =>
    cases found : system.calls[id]? with
    | none => simpa [step, found] using unresolved
    | some call =>
      cases call with
      | submitting escrowId =>
        cases response with
        | ok => exact absurd found (refused id escrowId rfl)
        | refused status =>
          simp only [step, found]
          exact ⟨unresolved, by simp⟩
        | failed message =>
          simp only [step, found]
          exact ⟨unresolved.finish id _ (by simp), by simp⟩
      | reading | returned => simpa [step, found] using unresolved
  | read id body =>
    cases found : system.calls[id]? with
    | none => simpa [step, found] using unresolved
    | some call =>
      cases call with
      | reading escrowId status =>
        simp only [step, found]
        exact ⟨unresolved.finish id _ (by simp), by simp⟩
      | submitting | returned => simpa [step, found] using unresolved

theorem run_unresolved (reply : Route Endpoint → Params → Response) {inputs : List Input}
    (routed : Routed threshold reply inputs) : Unresolved (final threshold inputs) ∧
      ∀ receipt ∈ history threshold inputs, ∀ escrowId, receipt.output ≠ some (.accepted escrowId) := by
  induction inputs with
  | nil => exact ⟨nofun, nofun⟩
  | cons input earlier ih =>
    obtain ⟨unresolved, quiet⟩ := ih fun receipt member => routed receipt (.tail _ member)
    have refused (id : Nat) (escrowId : String) (same : input = .respond id .ok) :
        (final threshold earlier).calls[id]? ≠ some (.submitting escrowId) := by
      intro submitting
      rcases routed _ List.mem_cons_self id .ok escrowId same submitting with given | ⟨message, lost⟩
      · rw [walletResponse_refused] at given
        cases given
      · cases lost
    obtain ⟨after, silent⟩ := @step_unresolved threshold _ input unresolved refused
    exact ⟨after, List.forall_mem_cons.mpr ⟨silent, quiet⟩⟩

/-- The wallet service has no route for the resolution of a dispute either, so however many arbiters sign
and however often a submission is tried again, no dispute is ever resolved. -/
theorem disputes_never_resolved (threshold : Number) (reply : Route Endpoint → Params → Response)
    (inputs : List Input) (routed : Routed threshold reply inputs) :
    (∀ escrowId state, (final threshold inputs).disputes escrowId = some state →
      state.status ≠ .resolved) ∧
    ∀ receipt ∈ history threshold inputs, ∀ escrowId, receipt.output ≠ some (.accepted escrowId) :=
  run_unresolved reply routed

def answeredSubmission : List Input :=
  [ .collect "escrow" "first" "signature" 0, .collect "escrow" "second" "signature" 1,
    .respond 1 (.refused 404) ].reverse

theorem answeredSubmission_routed (reply : Route Endpoint → Params → Response) :
    Routed (.finite 2) reply answeredSubmission := by
  intro receipt member id response escrowId asked _
  refine .inl ?_
  rw [walletResponse_refused]
  have among := List.mem_map_of_mem (f := Receipt.input) member
  rw [history, Run.history_input, asked] at among
  simp [answeredSubmission] at among
  exact among.2

theorem disputes_never_resolved_answered :
    (∀ escrowId state, (final (.finite 2) answeredSubmission).disputes escrowId = some state →
      state.status ≠ .resolved) ∧
    ∀ receipt ∈ history (.finite 2) answeredSubmission, ∀ escrowId,
      receipt.output ≠ some (.accepted escrowId) :=
  disputes_never_resolved (.finite 2) (fun _ _ => .ok) answeredSubmission
    (answeredSubmission_routed fun _ _ => .ok)

end Disputes

end Delego.Http
