import Delego.Saga.Types
import Delego.Shared.Versioned
import Mathlib.Logic.Function.Basic

set_option autoImplicit false

namespace Delego.Saga

open Shared

variable {Context : Type}

abbrev SagaStore (Context : Type) := String → Option (SagaRecord Context)

namespace SagaStore

def createIfNotExists (store : SagaStore Context) (record : SagaRecord Context) :
    SagaRecord Context × SagaStore Context :=
  match store record.sagaId with
  | some existing => (existing, store)
  | none =>
    let stored := { record with version := 0 }
    (stored, Function.update store record.sagaId (some stored))

def get (store : SagaStore Context) (sagaId : String) : Option (SagaRecord Context) := store sagaId

-- `none` is the SagaConcurrencyError.
def save (store : SagaStore Context) (record : SagaRecord Context) :
    Option (SagaRecord Context × SagaStore Context) :=
  match store record.sagaId with
  | none => none
  | some existing =>
    if existing.version ≠ record.version then none
    else
      let updated := { record with version := record.version + 1 }
      some (updated, Function.update store record.sagaId (some updated))

end SagaStore

end Delego.Saga
