set_option autoImplicit false

namespace Delego.Purchase

structure ProductMatch where
  id : String
  name : String
  merchant : String
  priceStroops : String
  url : String
  deriving DecidableEq

inductive PurchaseState where
  | initiated
  | searching
  | found
  | approved
  | escrowFunded
  | purchased
  | delivering
  | delivered
  | completed
  | cancelled
  | failed
  deriving DecidableEq

inductive PurchaseEventType where
  | search
  | productsFound
  | approve
  | reject
  | escrowFunded
  | escrowFailed
  | purchaseConfirmed
  | deliveryConfirmed
  | settle
  | cancel
  | timeout
  | fail
  deriving DecidableEq

inductive PurchaseEvent where
  | search (query delegationId : String)
  | productsFound (products : List ProductMatch)
  | approve (selectedProductId : String)
  | reject
  | escrowFunded (escrowId txHash : String)
  | escrowFailed (reason : String)
  | purchaseConfirmed (merchantOrderId : String)
  | deliveryConfirmed (proof : String)
  | settle (txHash : String)
  | cancel (reason : String)
  | timeout
  | fail (error : String)
  deriving DecidableEq

-- Dates are clock readings in milliseconds.
structure PurchaseContext where
  orderId : String
  userId : String
  delegationId : String
  query : String
  products : List ProductMatch
  selectedProductId : Option String
  escrowId : Option String
  escrowTxHash : Option String
  merchantOrderId : Option String
  settlementTxHash : Option String
  error : Option String
  createdAt : Nat
  deriving DecidableEq

structure WorkflowSnapshot where
  orderId : String
  state : PurchaseState
  context : PurchaseContext
  updatedAt : Nat
  deriving DecidableEq

structure WorkflowEvent where
  orderId : String
  userId : String
  previousState : PurchaseState
  currentState : PurchaseState
  event : PurchaseEventType
  timestamp : Nat
  deriving DecidableEq

def PurchaseEvent.type : PurchaseEvent → PurchaseEventType
  | .search .. => .search
  | .productsFound _ => .productsFound
  | .approve _ => .approve
  | .reject => .reject
  | .escrowFunded .. => .escrowFunded
  | .escrowFailed _ => .escrowFailed
  | .purchaseConfirmed _ => .purchaseConfirmed
  | .deliveryConfirmed _ => .deliveryConfirmed
  | .settle _ => .settle
  | .cancel _ => .cancel
  | .timeout => .timeout
  | .fail _ => .fail

-- The names that the source's strings are.
def PurchaseState.name : PurchaseState → String
  | .initiated => "INITIATED"
  | .searching => "SEARCHING"
  | .found => "FOUND"
  | .approved => "APPROVED"
  | .escrowFunded => "ESCROW_FUNDED"
  | .purchased => "PURCHASED"
  | .delivering => "DELIVERING"
  | .delivered => "DELIVERED"
  | .completed => "COMPLETED"
  | .cancelled => "CANCELLED"
  | .failed => "FAILED"

def PurchaseEventType.name : PurchaseEventType → String
  | .search => "SEARCH"
  | .productsFound => "PRODUCTS_FOUND"
  | .approve => "APPROVE"
  | .reject => "REJECT"
  | .escrowFunded => "ESCROW_FUNDED"
  | .escrowFailed => "ESCROW_FAILED"
  | .purchaseConfirmed => "PURCHASE_CONFIRMED"
  | .deliveryConfirmed => "DELIVERY_CONFIRMED"
  | .settle => "SETTLE"
  | .cancel => "CANCEL"
  | .timeout => "TIMEOUT"
  | .fail => "FAIL"

end Delego.Purchase
