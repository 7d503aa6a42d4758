import Delego.Shared.PathPattern

set_option autoImplicit false

namespace Delego.Http

open Shared

structure Route (Handler : Type) where
  method : String
  path : String
  handler : Handler

variable {Handler : Type}

def Route.pattern (route : Route Handler) : List PathPattern.Token := PathPattern.compile route.path

abbrev Params := List (String × String)

def paramsOf (route : Route Handler) (values : List (List Char)) : Params :=
  (PathPattern.paramNames route.pattern).zip (values.map String.ofList)

def Route.matches (route : Route Handler) (method pathname : String) : Option Params :=
  if route.method ≠ method then none
  else (PathPattern.run route.pattern pathname.toList).map (paramsOf route)

-- The first route that matches.
def matchRoute (routes : List (Route Handler)) (method pathname : String) :
    Option (Route Handler × Params) :=
  routes.findSome? fun route => (route.matches method pathname).map (route, ·)

inductive Answer (Handler : Type) where
  | handled (route : Route Handler) (params : Params)
  | health
  | notFound (message : String)

-- The end of `startHttpServer`'s chain, once every middleware has passed the request on.
def dispatch (routes : List (Route Handler)) (method pathname : String) : Answer Handler :=
  match matchRoute routes method pathname with
  | some (route, params) => .handled route params
  | none =>
    if method = "GET" ∧ pathname = "/health" then .health
    else .notFound ("Route not found: " ++ pathname)

-- What a middleware makes of a request.
inductive Verdict where
  | passes
  | answers (status : Nat)
  | fails (message : String)
  deriving DecidableEq

inductive Served (Handler : Type) where
  | answered (status : Nat)
  | failed (message : String)
  | dispatched (answer : Answer Handler)

-- The chain of `startHttpServer`: the first middleware that does not pass the request on has the last word.
def serve (routes : List (Route Handler)) (method pathname : String) : List Verdict → Served Handler
  | [] => .dispatched (dispatch routes method pathname)
  | .passes :: later => serve routes method pathname later
  | .answers status :: _ => .answered status
  | .fails message :: _ => .failed message

/-- Each parameter is a segment of its own kind, and no two routes of one method share a path. -/
def Unambiguous (routes : List (Route Handler)) : Prop :=
  (∀ route ∈ routes, PathPattern.Separated route.pattern) ∧
    routes.Pairwise fun route other =>
      route.method = other.method → PathPattern.disjoint route.pattern other.pattern = true

instance (routes : List (Route Handler)) : Decidable (Unambiguous routes) :=
  inferInstanceAs (Decidable (_ ∧ _))

/-- A request that is made for a route: its method, and its path with values for the parameters. -/
def Addressed (route : Route Handler) (method pathname : String) (params : Params) : Prop :=
  route.method = method ∧ ∃ values, PathPattern.Fills route.pattern values pathname.toList ∧
    params = paramsOf route values

section Matching

variable {routes : List (Route Handler)} {route other : Route Handler} {method pathname : String}
  {params : Params}

theorem matches_iff (separated : PathPattern.Separated route.pattern) :
    route.matches method pathname = some params ↔ Addressed route method pathname params := by
  unfold Route.matches Addressed
  by_cases same : route.method = method
  · simp only [same, ne_eq, not_true_eq_false, if_false, Option.map_eq_some_iff, true_and,
      PathPattern.run_iff separated, @eq_comm _ params]
  · simp [same]

theorem disjoint_unaddressed (apart : PathPattern.disjoint route.pattern other.pattern = true)
    (addressed : Addressed route method pathname params) (params' : Params) :
    ¬ Addressed other method pathname params' := by
  intro others
  obtain ⟨_, _, fills, _⟩ := addressed
  obtain ⟨_, _, fills', _⟩ := others
  exact PathPattern.disjoint_fills apart fills fills'

/-- In an unambiguous table the order of the routes decides nothing: a route is taken just by the
requests that are made for it. -/
theorem matchRoute_iff (unambiguous : Unambiguous routes) :
    matchRoute routes method pathname = some (route, params) ↔
      route ∈ routes ∧ Addressed route method pathname params := by
  obtain ⟨separated, apart⟩ := unambiguous
  induction routes with
  | nil => simp [matchRoute]
  | cons first later ih =>
    obtain ⟨separatedFirst, separatedLater⟩ := List.forall_mem_cons.mp separated
    obtain ⟨apartFirst, apartLater⟩ := List.pairwise_cons.mp apart
    have further := ih separatedLater apartLater
    have cons : matchRoute (first :: later) method pathname =
        ((first.matches method pathname).map (first, ·)).or (matchRoute later method pathname) := by
      simp only [matchRoute, List.findSome?_cons]
      cases (first.matches method pathname).map (first, ·) <;> rfl
    rw [cons, List.mem_cons]
    cases matched : first.matches method pathname with
    | none =>
      rw [Option.map_none, Option.none_or, further]
      constructor
      · intro found
        exact ⟨.inr found.1, found.2⟩
      · intro found
        obtain ⟨here | there, addressed⟩ := found
        · subst here
          rw [← matches_iff separatedFirst, matched] at addressed
          cases addressed
        · exact ⟨there, addressed⟩
    | some taken =>
      have reached := (matches_iff separatedFirst).mp matched
      simp only [Option.map_some, Option.some_or, Option.some.injEq, Prod.mk.injEq]
      constructor
      · intro same
        obtain ⟨sameRoute, sameParams⟩ := same
        subst sameRoute sameParams
        exact ⟨.inl rfl, reached⟩
      · intro found
        obtain ⟨here | there, addressed⟩ := found
        · subst here
          rw [← matches_iff separatedFirst, matched] at addressed
          exact ⟨rfl, Option.some.inj addressed⟩
        · have methods := reached.1.trans addressed.1.symm
          exact absurd addressed (disjoint_unaddressed (apartFirst _ there methods) reached params)

theorem dispatch_handled (unambiguous : Unambiguous routes) :
    dispatch routes method pathname = .handled route params ↔
      route ∈ routes ∧ Addressed route method pathname params := by
  rw [← matchRoute_iff unambiguous]
  unfold dispatch
  cases matchRoute routes method pathname with
  | some found =>
    obtain ⟨taken, values⟩ := found
    simp
  | none =>
    dsimp only
    split
    · simp
    · simp

-- Without a route, the end of the chain is the health check or 404.
theorem dispatch_unmatched (nothing : ∀ route ∈ routes, ∀ params, ¬ Addressed route method pathname params)
    (unambiguous : Unambiguous routes) : dispatch routes method pathname = dispatch [] method pathname := by
  unfold dispatch
  cases matched : matchRoute routes method pathname with
  | none => rfl
  | some found =>
    obtain ⟨route, params⟩ := found
    obtain ⟨member, addressed⟩ := (matchRoute_iff unambiguous).mp matched
    exact absurd addressed (nothing route member params)

theorem serve_dispatched {answer : Answer Handler} {chain : List Verdict} :
    serve routes method pathname chain = .dispatched answer ↔
      (∀ verdict ∈ chain, verdict = .passes) ∧ dispatch routes method pathname = answer := by
  induction chain with
  | nil => simp [serve]
  | cons verdict later ih =>
    cases verdict with
    | passes => simp [serve, ih]
    | answers | fails => simp [serve]

end Matching

end Delego.Http
