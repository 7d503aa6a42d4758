set_option autoImplicit false

namespace Delego.Saga

inductive SagaStatus where
  | running
  | compensating
  | completed
  | failed
  deriving DecidableEq

-- Dates are clock readings in milliseconds.
structure SagaRecord (Context : Type) where
  sagaId : String
  orderId : String
  status : SagaStatus
  completedSteps : List String
  context : Context
  currentStep : Option String
  error : Option String
  version : Nat
  claimExpiresAt : Option Nat
  createdAt : Nat
  updatedAt : Nat
  deriving DecidableEq

def SagaStatus.terminal : SagaStatus → Bool
  | .completed | .failed => true
  | .running | .compensating => false

/-- The steps of a saga by name: the constructor of the coordinator refuses none, and duplicates. -/
structure SagaDefinition where
  stepOrder : List String
  nonempty : stepOrder ≠ []
  distinct : stepOrder.Nodup

inductive SagaWork where
  | acted
  | rejected
  | compensated
  | compensationRejected
  deriving DecidableEq

structure SagaEvent where
  sagaId : String
  step : String
  work : SagaWork
  deriving DecidableEq

inductive SagaCall (Context : Type) where
  | run (sagaId orderId : String) (initialContext : Context)
  | resume (sagaId : String)
  | recoverOne (sagaId : String)

end Delego.Saga
