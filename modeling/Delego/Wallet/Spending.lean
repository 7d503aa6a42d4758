import Delego.Wallet.SpendWindow
import Delego.Wallet.TxQueue

set_option autoImplicit false

namespace Delego.Wallet.SpendLimits

open Shared Shared.Text
open TxQueue (TransactionRequest Spend Job Phase Response executeTxJob settled)

structure WalletRow where
  id : String
  userId : String
  stellarAddress : String

structure Tables where
  wallets : List WalletRow
  limits : List SpendLimit

/-- Where a request stands between two of its awaits. -/
inductive Stage where
  | finding
  | checking (userId walletId : String)
  | reading (userId walletId : String) (config : SpendLimit) (keys : SpendKeys)
  | refused (message : String)
  | enqueuing (request : TransactionRequest)
  | queued (request : TransactionRequest) (job : Job)
  | recording (request : TransactionRequest) (attemptsMade : Nat) (txHash : String) (ledger : Nat)
      (spend : Spend) (keys : SpendKeys)

/-- A request to `addTransactionToQueue`, with the time at which its transaction was confirmed and the
keys under which its spend has been recorded. -/
structure Handling where
  request : TransactionRequest
  stage : Stage
  confirmed : Option Nat
  recorded : Option SpendKeys

structure System where
  clock : Nat
  redis : Redis
  requests : List Handling

inductive Action where
  | findWallet (answered : Bool)
  | findLimit (answered : Bool) (elapsedMs : Nat)
  | readCounters (answered : Bool)
  | enqueue (error : Option String)
  | process
  | answer (response : Response)
  | readKeys (elapsedMs : Nat)
  | runScript (reached : Bool)

inductive Input where
  | submit (request : TransactionRequest)
  | wait (elapsedMs : Nat)
  | act (id : Nat) (action : Action)

-- It is none where the text is no integer.
def amountStroops (request : TransactionRequest) : Option Int :=
  match truthy request.amountStroops with
  | some text => Number.bigInt text
  | none => some 0

def userIdOf (request : TransactionRequest) (wallet : Option WalletRow) : Option String :=
  truthy (truthy request.userId <|> wallet.map WalletRow.userId)

def walletIdOf (request : TransactionRequest) (wallet : Option WalletRow) : Option String :=
  truthy (truthy request.walletId <|> wallet.map WalletRow.id)

def Tables.wallet (tables : Tables) (request : TransactionRequest) : Option WalletRow :=
  tables.wallets.find? fun wallet => wallet.stellarAddress = request.sourceAddress

def received (request : TransactionRequest) : Stage :=
  match amountStroops request with
  | none => .refused "Cannot convert the amount to a BigInt"
  | some _ =>
    match truthy request.userId, truthy request.walletId with
    | some userId, some walletId => .checking userId walletId
    | _, _ => .finding

-- Without a user and a wallet there is no check.
def walletFound (request : TransactionRequest) (wallet : Option WalletRow) : Stage :=
  match userIdOf request wallet, walletIdOf request wallet with
  | some userId, some walletId => .checking userId walletId
  | _, _ => .enqueuing request

def checked (request : TransactionRequest) (userId walletId : String) : TransactionRequest :=
  { request with
    userId := some userId
    walletId := some walletId
    amountStroops := some (toString ((amountStroops request).getD 0)) }

def refusedBy (result : SpendCheckResult) : Stage :=
  .refused ("Spending limit exceeded: " ++ (truthy result.reason).getD "limit exceeded")

def keysAt (userId walletId : String) (clock elapsedMs : Nat) : SpendKeys where
  dailyKey := getDailyKey userId walletId clock
  weeklyKey := getWeeklyKey userId walletId (clock + elapsedMs : Nat)
  lifetimeKey := getLifetimeKey userId walletId

-- The rows are read first, then the clock for the two keys.
def limitFound (tables : Tables) (request : TransactionRequest) (userId walletId : String)
    (clock elapsedMs : Nat) : Stage :=
  match findConfig tables.limits userId (some walletId) request.delegationId with
  | none => .enqueuing (checked request userId walletId)
  | some config =>
    match checkPerTransaction config ((amountStroops request).getD 0) with
    | some refusal => refusedBy refusal
    | none => .reading userId walletId config (keysAt userId walletId clock elapsedMs)

def countersRead (redis : Redis) (clock : Nat) (request : TransactionRequest) (userId walletId : String)
    (config : SpendLimit) (keys : SpendKeys) : Stage :=
  let result := checkCounters config (redis.spend clock keys.dailyKey) (redis.spend clock keys.weeklyKey)
    (redis.spend clock keys.lifetimeKey) ((amountStroops request).getD 0)
  if result.allowed then .enqueuing (checked request userId walletId) else refusedBy result

-- The answer by which an attempt comes to know that its transaction is on the ledger.
def confirms : Phase → Phase → Bool
  | .poll .., .record .. | .poll .., .returned _ | .verify .., .returned _ => true
  | _, _ => false

/-- What becomes of a request, how long that takes, and what it leaves in Redis. A check that fails to
be answered is skipped. -/
def perform (tables : Tables) (clock : Nat) (redis : Redis) (handling : Handling) (action : Action) :
    Handling × Nat × Redis :=
  match handling.stage, action with
  | .finding, .findWallet answered =>
    ({ handling with
      stage := walletFound handling.request
        (if answered then tables.wallet handling.request else none) }, 0, redis)
  | .checking userId walletId, .findLimit answered elapsedMs =>
    if answered then
      ({ handling with
        stage := limitFound tables handling.request userId walletId clock elapsedMs }, elapsedMs, redis)
    else
      ({ handling with
        stage := .enqueuing handling.request }, 0, redis)
  | .reading userId walletId config keys, .readCounters answered =>
    if answered then
      ({ handling with
        stage := countersRead redis clock handling.request userId walletId config keys }, 0, redis)
    else
      ({ handling with
        stage := .enqueuing handling.request }, 0, redis)
  | .enqueuing request, .enqueue none =>
    ({ handling with
      stage := .queued request (.waiting 0) }, 0, redis)
  | .enqueuing _, .enqueue (some message) =>
    ({ handling with
      stage := .refused message }, 0, redis)
  | .queued request (.waiting attemptsMade), .process =>
    ({ handling with
      stage := .queued request (.active attemptsMade .key) }, 0, redis)
  | .queued request (.active attemptsMade (.record txHash ledger spend)), .readKeys elapsedMs =>
    ({ handling with
      stage := .recording request attemptsMade txHash ledger spend
        (keysAt spend.userId spend.walletId clock elapsedMs) }, elapsedMs, redis)
  | .queued _ (.active _ (.record ..)), _ => (handling, 0, redis)
  | .queued request (.active attemptsMade phase), .answer response =>
    let phase' := executeTxJob request (attemptsMade + 1) phase response
    ({ handling with
      stage := .queued request (settled attemptsMade phase')
      confirmed := if confirms phase phase' then some clock else handling.confirmed }, 0, redis)
  | .recording request attemptsMade txHash ledger spend keys, .runScript reached =>
    let (after, complete) := if reached then luaScript redis clock keys spend.amount else (redis, false)
    ({ handling with
      stage := .queued request
        (settled attemptsMade (executeTxJob request (attemptsMade + 1) (.record txHash ledger spend) .done))
      recorded := if complete then some keys else none }, 0, after)
  | _, _ => (handling, 0, redis)

def step (tables : Tables) (system : System) : Input → System
  | .submit request =>
    { system with
      requests := system.requests ++ [⟨request, received request, none, none⟩] }
  | .wait elapsedMs =>
    { system with
      clock := system.clock + elapsedMs }
  | .act id action =>
    match system.requests[id]? with
    | none => system
    | some handling =>
      let (handling, elapsedMs, redis) := perform tables system.clock system.redis handling action
      ⟨system.clock + elapsedMs, redis, system.requests.set id handling⟩

def run (tables : Tables) (clock : Nat) : List Input → System
  | [] => ⟨clock, fun _ => none, []⟩
  | input :: earlier => step tables (run tables clock earlier) input

end Delego.Wallet.SpendLimits
