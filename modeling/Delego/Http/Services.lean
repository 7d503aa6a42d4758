import Delego.Http.Router
import Delego.Shared.UrlPath

set_option autoImplicit false

namespace Delego.Http

open Shared

-- The servers that the services start. The orchestrator starts two on its port: one as its module is loaded,
-- and another in `main`.
inductive Service where
  | gateway
  | orchestrator
  | orchestratorMain
  | wallet
  | payments
  | notifications
  deriving DecidableEq

inductive Endpoint where
  | health
  | apiV1
  | register
  | login
  | refresh
  | createDelegation
  | listDelegations
  | getDelegation
  | updateDelegation
  | revokeDelegation
  | getWallet
  | checkout
  | getSaga
  | resumeSaga
  | createAccount
  | getAccount
  | listAccounts
  | simulateTransaction
  | submitTransaction
  | getBalance
  | getJob
  | listTransactions
  | initializeEscrow
  | depositEscrow
  | releaseEscrow
  | refundEscrow
  | vapidPublicKey
  | saveSubscription
  | removeSubscription
  | notifyTransactionApproval
  deriving DecidableEq

def routes : Service → List (Route Endpoint)
  | .gateway =>
    [ ⟨"GET", "/health", .health⟩,
      ⟨"GET", "/api/v1/status", .apiV1⟩,
      ⟨"POST", "/api/v1/auth/register", .register⟩,
      ⟨"POST", "/api/v1/auth/login", .login⟩,
      ⟨"POST", "/api/v1/auth/refresh", .refresh⟩,
      ⟨"POST", "/api/v1/delegations", .createDelegation⟩,
      ⟨"GET", "/api/v1/delegations", .listDelegations⟩,
      ⟨"GET", "/api/v1/delegations/:id", .getDelegation⟩,
      ⟨"PATCH", "/api/v1/delegations/:id", .updateDelegation⟩,
      ⟨"DELETE", "/api/v1/delegations/:id", .revokeDelegation⟩,
      ⟨"GET", "/api/v1/wallets/:walletId", .getWallet⟩ ]
  | .orchestrator => []
  | .orchestratorMain =>
    [ ⟨"POST", "/checkout", .checkout⟩,
      ⟨"GET", "/sagas/:sagaId", .getSaga⟩,
      ⟨"POST", "/sagas/:sagaId/resume", .resumeSaga⟩ ]
  | .wallet =>
    [ ⟨"POST", "/wallets/create", .createAccount⟩,
      ⟨"GET", "/wallets/:address", .getAccount⟩,
      ⟨"GET", "/wallets", .listAccounts⟩,
      ⟨"POST", "/transactions/simulate", .simulateTransaction⟩,
      ⟨"POST", "/transactions/submit", .submitTransaction⟩,
      ⟨"GET", "/api/v1/wallet/:address/balance", .getBalance⟩,
      ⟨"GET", "/api/v1/queue/jobs/:jobId", .getJob⟩,
      ⟨"GET", "/api/v1/wallet/:address/transactions", .listTransactions⟩ ]
  | .payments =>
    [ ⟨"POST", "/escrow/initialize", .initializeEscrow⟩,
      ⟨"POST", "/escrow/deposit", .depositEscrow⟩,
      ⟨"POST", "/escrow/:escrowId/release", .releaseEscrow⟩,
      ⟨"POST", "/escrow/:escrowId/refund", .refundEscrow⟩ ]
  | .notifications =>
    [ ⟨"GET", "/vapid-public-key", .vapidPublicKey⟩,
      ⟨"POST", "/subscriptions/:userId", .saveSubscription⟩,
      ⟨"DELETE", "/subscriptions/:userId", .removeSubscription⟩,
      ⟨"POST", "/notify/transaction-approval", .notifyTransactionApproval⟩ ]

theorem routes_unambiguous (service : Service) : Unambiguous (routes service) := by
  cases service <;> decide +kernel

theorem addressed_unique {service : Service} {method pathname : String} {route other : Route Endpoint}
    {params params' : Params} (member : route ∈ routes service) (member' : other ∈ routes service)
    (addressed : Addressed route method pathname params) (addressed' : Addressed other method pathname params') :
    route = other ∧ params = params' := by
  have unambiguous := routes_unambiguous service
  have first := (matchRoute_iff unambiguous).mpr ⟨member, addressed⟩
  have second := (matchRoute_iff unambiguous).mpr ⟨member', addressed'⟩
  simpa using first.symm.trans second

/-- Whatever a server is asked, and whatever its middleware makes of that: a request comes to a route just if
every middleware passes it on and the route is made for it, with the values that stand in the path; at most
one route is made for it; and where none is, it is the health check or not found. -/
theorem service_requests_routed (service : Service) (chain : List Verdict) (method pathname : String) :
    (∀ route params, serve (routes service) method pathname chain = .dispatched (.handled route params) ↔
      (∀ verdict ∈ chain, verdict = .passes) ∧ route ∈ routes service ∧
        Addressed route method pathname params) ∧
    (∀ route ∈ routes service, ∀ other ∈ routes service, ∀ params params',
      Addressed route method pathname params → Addressed other method pathname params' →
        route = other ∧ params = params') ∧
    ((∀ verdict ∈ chain, verdict = .passes) →
      (∀ route ∈ routes service, ∀ params, ¬ Addressed route method pathname params) →
        serve (routes service) method pathname chain = .dispatched (
          if method = "GET" ∧ pathname = "/health" then .health
          else .notFound ("Route not found: " ++ pathname))) := by
  refine ⟨?_, ?_, ?_⟩
  · intro route params
    rw [serve_dispatched, dispatch_handled (routes_unambiguous service)]
  · intro route member other member' params params' addressed addressed'
    exact addressed_unique member member' addressed addressed'
  · intro passed nothing
    exact serve_dispatched.mpr ⟨passed, dispatch_unmatched nothing (routes_unambiguous service)⟩

section Segments

variable {route : Route Endpoint} {method : String} {params : Params} {head : List Char}
  {segments : List (List Char)}

def Route.start (route : Route Endpoint) : Option (List Char) :=
  (PathPattern.segments route.pattern)[1]?.bind PathPattern.literal

theorem splitOn_joined (clean : ∀ segment ∈ segments, '/' ∉ segment) :
    (UrlPath.joined segments).splitOn '/' = [] :: segments := by
  induction segments with
  | nil => rfl
  | cons segment later ih =>
    have rest := ih fun other member => clean other (.tail _ member)
    have cons : UrlPath.joined (segment :: later) = '/' :: (segment ++ UrlPath.joined later) := rfl
    rw [cons, PathPattern.splitOn_separator, PathPattern.splitOn_clean (clean segment (by simp)), rest]
    simp

theorem head_unaddressed {own : List Char} (starts : route.start = some own) (other : own ≠ head)
    (clean : ∀ segment ∈ head :: segments, '/' ∉ segment) :
    ¬ Addressed route method (String.ofList (UrlPath.joined (head :: segments))) params := by
  intro addressed
  obtain ⟨_, values, fills, _⟩ := addressed
  rw [String.toList_ofList] at fills
  have filled := fills.segments
  rw [splitOn_joined clean] at filled
  unfold Route.start at starts
  cases parts : PathPattern.segments route.pattern with
  | nil => simp [parts] at starts
  | cons first rest =>
    rw [parts] at filled starts
    cases filled with
    | cons _ filled =>
      cases filled with
      | cons filled _ =>
        obtain ⟨_, fills⟩ := filled
        exact other (fills.literal (by simpa using starts)).symm

end Segments

end Delego.Http
