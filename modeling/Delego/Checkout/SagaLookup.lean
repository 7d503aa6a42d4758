import Delego.Checkout.Endpoints

set_option autoImplicit false

namespace Delego.Checkout

open Shared Saga

def lookupTarget (sagaId : String) : String := "/sagas/" ++ sagaId

def resumeTarget (sagaId : String) : String := "/sagas/" ++ sagaId ++ "/resume"

theorem Door.unambiguous (door : Door) : Http.Unambiguous door.routes := by
  cases door with
  | loaded => exact Http.routes_unambiguous .orchestrator
  | main => exact Http.routes_unambiguous .orchestratorMain

section Reached

variable {request : Request} {endpoint : Http.Endpoint} {sagaId orderId : String}

theorem reaches_plain (reaches : request.Reaches endpoint sagaId) : UrlPath.plainText sagaId := by
  obtain ⟨route, params, dispatched, _, asksFor⟩ := reaches
  obtain ⟨_, _, values, fills, filled⟩ := (Http.dispatch_handled request.door.unambiguous).mp dispatched
  obtain ⟨before, after, split, _⟩ := List.lookup_eq_some_iff.mp asksFor
  have given : ("sagaId", sagaId) ∈ params := by simp [split]
  rw [filled, Http.paramsOf] at given
  obtain ⟨value, member, same⟩ := List.mem_map.mp (List.of_mem_zip given).2
  intro c within
  rw [← same, String.toList_ofList] at within
  obtain ⟨apart, among⟩ := fills.values_clean value member c within
  exact (UrlPath.pathname_plain _ c among).resolve_left apart

theorem reaches_main (reaches : request.Reaches endpoint sagaId) : request.door = .main := by
  obtain ⟨route, params, dispatched, _⟩ := reaches
  obtain ⟨member, _⟩ := (Http.dispatch_handled request.door.unambiguous).mp dispatched
  cases door : request.door with
  | loaded =>
    rw [door] at member
    cases member
  | main => rfl

end Reached

section Reaching

variable {sagaId orderId : String}

theorem checkout_steady {rest : List Char} (clean : ∀ c ∈ rest, UrlPath.plain c = true) :
    UrlPath.steady ("checkout".toList ++ rest) := by
  have front : ∀ c ∈ "checkout".toList, UrlPath.plain c = true := by simp [UrlPath.plain_iff]
  refine ⟨?_, ?_, ?_⟩
  · exact List.forall_mem_append.mpr ⟨front, clean⟩
  · simp [UrlPath.undotted]
  · simp [UrlPath.undotted]

theorem checkoutSagaId_steady (plain : UrlPath.plainText orderId) :
    UrlPath.steady (checkoutSagaId orderId).toList := by
  have split : (checkoutSagaId orderId).toList = "checkout".toList ++ (':' :: orderId.toList) := by
    simp [checkoutSagaId]
  rw [split]
  exact checkout_steady (List.forall_mem_cons.mpr ⟨by decide, plain⟩)

theorem encoded_checkoutSagaId (orderId : String) :
    UrlPath.encodeURIComponent (checkoutSagaId orderId) =
      "checkout%3A" ++ UrlPath.encodeURIComponent orderId := by
  rw [checkoutSagaId, UrlPath.encodeURIComponent_append]
  congr 1

theorem encoded_steady (orderId : String) :
    UrlPath.steady (UrlPath.encodeURIComponent (checkoutSagaId orderId)).toList := by
  have split : (UrlPath.encodeURIComponent (checkoutSagaId orderId)).toList =
      "checkout".toList ++ ("%3A".toList ++ (UrlPath.encodeURIComponent orderId).toList) := by
    simp [encoded_checkoutSagaId]
  have colon : ∀ c ∈ "%3A".toList, UrlPath.plain c = true := by simp [UrlPath.plain_iff]
  rw [split]
  exact checkout_steady (List.forall_mem_append.mpr ⟨colon, UrlPath.encoded_plain orderId⟩)

theorem targets_joined (sagaId : String) :
    lookupTarget sagaId = String.ofList (UrlPath.joined ["sagas".toList, sagaId.toList]) ∧
      resumeTarget sagaId =
        String.ofList (UrlPath.joined ["sagas".toList, sagaId.toList, "resume".toList]) := by
  constructor
  · apply String.toList_inj.mp
    simp [lookupTarget, UrlPath.joined]
  · apply String.toList_inj.mp
    simp [resumeTarget, UrlPath.joined]

theorem lookup_segments (steady : UrlPath.steady sagaId.toList) :
    ∀ segment ∈ ["sagas".toList, sagaId.toList], UrlPath.steady segment :=
  List.forall_mem_cons.mpr ⟨by decide, List.forall_mem_singleton.mpr steady⟩

theorem resume_segments (steady : UrlPath.steady sagaId.toList) :
    ∀ segment ∈ ["sagas".toList, sagaId.toList, "resume".toList], UrlPath.steady segment :=
  List.forall_mem_cons.mpr ⟨by decide, List.forall_mem_cons.mpr
    ⟨steady, List.forall_mem_singleton.mpr (by decide)⟩⟩

theorem clean_of_steady {segment : List Char} (steady : UrlPath.steady segment) : '/' ∉ segment := by
  intro member
  have slash := steady.1 '/' member
  revert slash
  decide

theorem lookup_reaches (steady : UrlPath.steady sagaId.toList) (nonempty : sagaId.toList ≠ [])
    (request : Request) (door : request.door = .main) (method : request.method = "GET")
    (target : request.target = lookupTarget sagaId) :
    request.Reaches .getSaga sagaId := by
  refine ⟨⟨"GET", "/sagas/:sagaId", .getSaga⟩, [("sagaId", sagaId)], ?_, rfl, by simp⟩
  rw [target, (targets_joined sagaId).1, UrlPath.pathname_steady (lookup_segments steady), method, door]
  refine (Http.dispatch_handled (Door.unambiguous .main)).mpr
    ⟨by simp [Door.routes, Http.routes], rfl, [sagaId.toList], ?_, ?_⟩
  · have pattern : PathPattern.compile "/sagas/:sagaId" =
        "/sagas/".toList.map .char ++ [.param "sagaId"] := by decide
    have filled := PathPattern.Fills.chars
      (.param "sagaId" nonempty (clean_of_steady steady) .nil) "/sagas/".toList
    rw [Http.Route.pattern, pattern]
    simpa [UrlPath.joined] using filled
  · have names : PathPattern.paramNames (PathPattern.compile "/sagas/:sagaId") = ["sagaId"] := by decide
    simp [Http.paramsOf, Http.Route.pattern, names]

theorem resume_reaches (steady : UrlPath.steady sagaId.toList) (nonempty : sagaId.toList ≠ [])
    (request : Request) (door : request.door = .main) (method : request.method = "POST")
    (target : request.target = resumeTarget sagaId) :
    request.Reaches .resumeSaga sagaId := by
  refine ⟨⟨"POST", "/sagas/:sagaId/resume", .resumeSaga⟩, [("sagaId", sagaId)], ?_, rfl, by simp⟩
  rw [target, (targets_joined sagaId).2, UrlPath.pathname_steady (resume_segments steady), method, door]
  refine (Http.dispatch_handled (Door.unambiguous .main)).mpr
    ⟨by simp [Door.routes, Http.routes], rfl, [sagaId.toList], ?_, ?_⟩
  · have pattern : PathPattern.compile "/sagas/:sagaId/resume" =
        "/sagas/".toList.map .char ++ .param "sagaId" :: ("/resume".toList.map .char ++ []) := by decide
    have rest := PathPattern.Fills.chars .nil "/resume".toList
    have filled := PathPattern.Fills.chars
      (.param "sagaId" nonempty (clean_of_steady steady) rest) "/sagas/".toList
    rw [Http.Route.pattern, pattern]
    simpa [UrlPath.joined] using filled
  · have names : PathPattern.paramNames (PathPattern.compile "/sagas/:sagaId/resume") = ["sagaId"] := by
      decide
    simp [Http.paramsOf, Http.Route.pattern, names]

end Reaching

section Lookups

open Orchestrator

variable {port : Nat} {claimLeaseMs : Nat → Nat} {server : Orchestrator} {id : Nat} {request : Request}
  {reply : ApiReply}
  {view : SagaView}

theorem plain_of_checkoutSagaId {orderId : String} (plain : UrlPath.plainText (checkoutSagaId orderId)) :
    UrlPath.plainText orderId := by
  intro c member
  exact plain c (by simp [checkoutSagaId, member])

theorem checkoutSagaId_nonempty (orderId : String) : (checkoutSagaId orderId).toList ≠ [] := by
  simp [checkoutSagaId]

theorem reached_iff (orderId : String) :
    ((∃ request : Request, request.Reaches .getSaga (checkoutSagaId orderId)) ↔ UrlPath.plainText orderId) ∧
      ((∃ request : Request, request.Reaches .resumeSaga (checkoutSagaId orderId)) ↔
        UrlPath.plainText orderId) := by
  have named := checkoutSagaId_nonempty orderId
  constructor
  · constructor
    · intro ⟨request, reaches⟩
      exact plain_of_checkoutSagaId (reaches_plain reaches)
    · intro plain
      have steady := checkoutSagaId_steady plain
      have rooted := UrlPath.rooted_steady (lookup_segments steady) (by decide)
      rw [← (targets_joined _).1] at rooted
      exact ⟨⟨.main, "GET", _, rooted, .ok []⟩, lookup_reaches steady named _ rfl rfl rfl⟩
  · constructor
    · intro ⟨request, reaches⟩
      exact plain_of_checkoutSagaId (reaches_plain reaches)
    · intro plain
      have steady := checkoutSagaId_steady plain
      have rooted := UrlPath.rooted_steady (resume_segments steady) (by decide)
      rw [← (targets_joined _).2] at rooted
      exact ⟨⟨.main, "POST", _, rooted, .ok []⟩, resume_reaches steady named _ rfl rfl rfl⟩

theorem call_silent (asked : Awaited) (sagaCall : SagaCall CheckoutContext) :
    (server.call claimLeaseMs id asked sagaCall).1 = none := by
  unfold call
  split <;> rfl

theorem lookup_named {door : Door} {method pathname : String} {route : Http.Route Http.Endpoint}
    {params : Http.Params} (dispatched : Http.dispatch door.routes method pathname = .handled route params)
    (endpoint : route.handler = .getSaga) : ∃ sagaId, params.lookup "sagaId" = some sagaId := by
  obtain ⟨member, _, values, fills, filled⟩ := (Http.dispatch_handled door.unambiguous).mp dispatched
  have own : route = ⟨"GET", "/sagas/:sagaId", .getSaga⟩ := by
    cases door with
    | loaded => cases member
    | main =>
      simp only [Door.routes, Http.routes, List.mem_cons, List.not_mem_nil, or_false] at member
      rcases member with checkout | lookup | resume
      · subst checkout
        cases endpoint
      · exact lookup
      · subst resume
        cases endpoint
  have names : PathPattern.paramNames route.pattern = ["sagaId"] := by
    subst own
    decide
  have single := fills.length
  rw [names] at single
  obtain ⟨value, same⟩ := List.length_eq_one_iff.mp single
  exact ⟨String.ofList value, by simp [filled, Http.paramsOf, names, same]⟩

theorem receive_shows (replied : (server.receive claimLeaseMs id request).1 = some (.reply reply))
    (shown : reply.data = some view) :
    ∃ sagaId record, request.Reaches .getSaga sagaId ∧ server.sagas.store sagaId = some record ∧
      view = viewOf record := by
  unfold receive at replied
  split at replied
  case isFalse => cases replied
  cases dispatched : Http.dispatch request.door.routes request.method (UrlPath.pathname request.target) with
  | health | notFound =>
    rw [dispatched] at replied
    cases replied
  | handled route params =>
    rw [dispatched] at replied
    simp only at replied
    cases endpoint : route.handler with
    | checkout =>
      rw [endpoint] at replied
      cases body : request.body with
      | error message =>
        rw [body] at replied
        cases replied
        cases shown
      | ok fields =>
        rw [body] at replied
        cases input : checkoutInput fields with
        | none =>
          simp only [handle, input] at replied
          cases replied
          cases shown
        | some given =>
          simp only [handle, input, call_silent] at replied
          cases replied
    | resumeSaga =>
      rw [endpoint] at replied
      simp only [handle, call_silent] at replied
      cases replied
    | getSaga =>
      obtain ⟨sagaId, asksFor⟩ := lookup_named dispatched endpoint
      rw [endpoint] at replied
      simp only [handle, asksFor, Option.getD_some, SagaStore.get] at replied
      cases found : server.sagas.store sagaId with
      | none =>
        rw [found] at replied
        cases replied
        cases shown
      | some record =>
        rw [found] at replied
        cases replied
        cases shown
        exact ⟨sagaId, record, ⟨route, params, dispatched, endpoint, asksFor⟩, found, rfl⟩
    | _ =>
      rw [endpoint] at replied
      cases replied

theorem encoded_absent (sane : Sane server) (orderId : String) :
    server.sagas.store (UrlPath.encodeURIComponent (checkoutSagaId orderId)) = none := by
  cases found : server.sagas.store (UrlPath.encodeURIComponent (checkoutSagaId orderId)) with
  | none => rfl
  | some record =>
    obtain ⟨same, named⟩ := sane.keeps _ _ found
    have clash : checkoutSagaId record.orderId = UrlPath.encodeURIComponent (checkoutSagaId orderId) :=
      named.symm.trans same
    rw [encoded_checkoutSagaId, checkoutSagaId] at clash
    have chars := congrArg (fun text : String => text.toList[8]?) clash
    simp at chars

theorem encoded_missing (sane : Sane server) {orderId : String} (door : request.door = .main)
    (method : request.method = "GET")
    (target : request.target = lookupTarget (UrlPath.encodeURIComponent (checkoutSagaId orderId)))
    {output : ServerOutput} (replied : (server.receive claimLeaseMs id request).1 = some output) :
    output = .reply (sagaReply (UrlPath.encodeURIComponent (checkoutSagaId orderId)) none) := by
  have named : (UrlPath.encodeURIComponent (checkoutSagaId orderId)).toList ≠ [] := by
    simp [encoded_checkoutSagaId]
  obtain ⟨route, params, dispatched, endpoint, asksFor⟩ :=
    lookup_reaches (encoded_steady orderId) named request door method target
  unfold receive at replied
  split at replied
  · simp only [dispatched, endpoint, handle, asksFor, Option.getD_some, SagaStore.get, encoded_absent sane,
      Option.some.injEq] at replied
    exact replied.symm
  · cases replied

end Lookups

end Delego.Checkout
