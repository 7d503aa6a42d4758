import Delego.Shared.Text

set_option autoImplicit false

namespace Delego.Wallet

open Shared.Text

structure SubmissionFailure where
  code : String
  message : String
  retryable : Bool
  txHash : Option String
  deriving DecidableEq

def malformedXdrPatterns : List String :=
  [ "malformed xdr", "invalid xdr", "failed to parse xdr", "fromxdr", "xdr decode", "bad xdr" ]

def authFailurePatterns : List String :=
  [ "auth failure", "authentication failed", "unauthorized", "forbidden", "access denied",
    "invalid auth tag", "decryption failed", "failed to decrypt" ]

def retryableNetworkPatterns : List String :=
  [ "timeout", "network", "econnrefused", "enotfound", "econnreset", "etimedout", "socket hang up",
    "fetch failed", "rate limit", "429", "500", "502", "503", "504", "temporarily unavailable",
    "service unavailable" ]

def matchesPatterns (message : String) (patterns : List String) : Bool :=
  let lower := toLowerCase message
  patterns.any fun pattern => includes lower pattern

/-- Which failures of a submission may be tried again. What was thrown is given by its message. -/
def classifySubmissionFailure (message : String) (txHash : Option String) : SubmissionFailure :=
  let lower := toLowerCase message
  if matchesPatterns lower malformedXdrPatterns then ⟨"TX_MALFORMED_XDR", message, false, txHash⟩
  else if matchesPatterns lower authFailurePatterns then ⟨"TX_AUTH_FAILURE", message, false, txHash⟩
  else if includes lower "simulation failed" then ⟨"TX_SIMULATION_FAILED", message, false, txHash⟩
  else if includes lower "tx_bad_seq" || includes lower "bad_seq" then
    ⟨"TX_SEQUENCE_CONFLICT", message, true, txHash⟩
  else if includes lower "transaction failed" then ⟨"TX_EXECUTION_FAILED", message, false, txHash⟩
  else if includes lower "submission failed" then
    if matchesPatterns lower retryableNetworkPatterns then ⟨"TX_RPC_TRANSIENT", message, true, txHash⟩
    else ⟨"TX_SUBMISSION_REJECTED", message, false, txHash⟩
  else if includes lower "transaction timeout" || includes lower "status untracked" then
    ⟨"TX_POLL_TIMEOUT", message, true, txHash⟩
  else if matchesPatterns lower retryableNetworkPatterns then
    ⟨"TX_RPC_TRANSIENT", message, true, txHash⟩
  else ⟨"TX_SUBMISSION_UNKNOWN", message, false, txHash⟩

end Delego.Wallet
