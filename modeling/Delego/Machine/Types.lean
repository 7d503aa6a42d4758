set_option autoImplicit false

namespace Delego.Machine

inductive PurchaseState where
  | discovery
  | spendingCheck
  | userApprovalPending
  | escrowLocking
  | merchantFulfillment
  | deliveryVerification
  | completed
  | refunded
  deriving DecidableEq

inductive PurchaseEventType where
  | productFound
  | spendApproved
  | spendDenied
  | userApproved
  | userRejected
  | escrowLocked
  | escrowFailed
  | fulfillmentConfirmed
  | deliveryVerified
  | refundInitiated
  deriving DecidableEq

inductive PurchaseEvent where
  | productFound (productId merchantId : String) (totalStroops : Int)
  | spendApproved
  | spendDenied (reason : String)
  | userApproved
  | userRejected
  | escrowLocked (escrowContractId : String)
  | escrowFailed (reason : String)
  | fulfillmentConfirmed
  | deliveryVerified
  | refundInitiated (reason : String)
  deriving DecidableEq

-- Dates are clock readings in milliseconds.
structure PurchaseContext where
  workflowId : String
  delegationId : String
  userId : String
  productId : Option String
  merchantId : Option String
  totalStroops : Option Int
  escrowContractId : Option String
  rejectionReason : Option String
  createdAt : Nat
  updatedAt : Nat
  deriving DecidableEq

structure StateTransitionRecord where
  workflowId : String
  fromState : Option PurchaseState
  toState : PurchaseState
  event : PurchaseEventType
  context : PurchaseContext
  timestamp : Nat
  deriving DecidableEq

structure WorkflowSnapshot where
  workflowId : String
  currentState : PurchaseState
  context : PurchaseContext
  history : List StateTransitionRecord
  version : Nat
  deriving DecidableEq

def PurchaseEvent.type : PurchaseEvent → PurchaseEventType
  | .productFound .. => .productFound
  | .spendApproved => .spendApproved
  | .spendDenied _ => .spendDenied
  | .userApproved => .userApproved
  | .userRejected => .userRejected
  | .escrowLocked _ => .escrowLocked
  | .escrowFailed _ => .escrowFailed
  | .fulfillmentConfirmed => .fulfillmentConfirmed
  | .deliveryVerified => .deliveryVerified
  | .refundInitiated _ => .refundInitiated

def PurchaseEventType.name : PurchaseEventType → String
  | .productFound => "PRODUCT_FOUND"
  | .spendApproved => "SPEND_APPROVED"
  | .spendDenied => "SPEND_DENIED"
  | .userApproved => "USER_APPROVED"
  | .userRejected => "USER_REJECTED"
  | .escrowLocked => "ESCROW_LOCKED"
  | .escrowFailed => "ESCROW_FAILED"
  | .fulfillmentConfirmed => "FULFILLMENT_CONFIRMED"
  | .deliveryVerified => "DELIVERY_VERIFIED"
  | .refundInitiated => "REFUND_INITIATED"

def PurchaseState.name : PurchaseState → String
  | .discovery => "Discovery"
  | .spendingCheck => "SpendingCheck"
  | .userApprovalPending => "UserApprovalPending"
  | .escrowLocking => "EscrowLocking"
  | .merchantFulfillment => "MerchantFulfillment"
  | .deliveryVerification => "DeliveryVerification"
  | .completed => "Completed"
  | .refunded => "Refunded"

end Delego.Machine
