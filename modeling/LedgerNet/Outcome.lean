import LedgerNet.StreamReset

/-!
What one attempt at a request amounts to, as a function of what came back.
-/
namespace LedgerNet

inductive LedgerStatus where
  | ok
  | busy
  | platformTransactionNotCreated
  | platformNotActive
  | invalidNodeAccount
  | invalidTransaction
  | invalidSignature
  | insufficientPayerBalance
  | insufficientTxFee
  | duplicateTransaction
  | transactionExpired
  | invalidTopicId
  | unknown
deriving DecidableEq, Repr, Inhabited

namespace LedgerStatus

def name : LedgerStatus → String
  | .ok => "OK"
  | .busy => "BUSY"
  | .platformTransactionNotCreated => "PLATFORM_TRANSACTION_NOT_CREATED"
  | .platformNotActive => "PLATFORM_NOT_ACTIVE"
  | .invalidNodeAccount => "INVALID_NODE_ACCOUNT"
  | .invalidTransaction => "INVALID_TRANSACTION"
  | .invalidSignature => "INVALID_SIGNATURE"
  | .insufficientPayerBalance => "INSUFFICIENT_PAYER_BALANCE"
  | .insufficientTxFee => "INSUFFICIENT_TX_FEE"
  | .duplicateTransaction => "DUPLICATE_TRANSACTION"
  | .transactionExpired => "TRANSACTION_EXPIRED"
  | .invalidTopicId => "INVALID_TOPIC_ID"
  | .unknown => "UNKNOWN"

instance : ToString LedgerStatus := ⟨name⟩

def named : List (String × LedgerStatus) :=
  [.ok, .busy, .platformTransactionNotCreated, .platformNotActive, .invalidNodeAccount, .invalidTransaction,
    .invalidSignature, .insufficientPayerBalance, .insufficientTxFee, .duplicateTransaction,
    .transactionExpired, .invalidTopicId, .unknown].map fun s => (s.name, s)

def reading : Json.Reading LedgerStatus := Json.variant named

def toJson (s : LedgerStatus) : Json.Value := .str s.name

end LedgerStatus

inductive Outcome where
  | success
  | transportFailure (status : Status) (retryable : Bool)
  /-- The ledger said "not now". -/
  | transientRejection (status : LedgerStatus) (retrySameNode : Bool)
  /-- The node is no longer the account that was addressed. -/
  | staleNodeIdentity (status : LedgerStatus)
  | terminalRejection (status : LedgerStatus)
deriving DecidableEq, Repr

namespace Outcome

def isSuccess : Outcome → Bool
  | .success => true
  | _ => false

def isRetryable : Outcome → Bool
  | .success | .terminalRejection _ => false
  | .transportFailure _ retryable => retryable
  | .transientRejection .. | .staleNodeIdentity _ => true

end Outcome

/-- What a ledger status means for a request, unless the request says otherwise. -/
def LedgerStatus.classify : LedgerStatus → Outcome
  | .ok => .success
  | .busy => .transientRejection .busy true
  | .platformTransactionNotCreated => .transientRejection .platformTransactionNotCreated false
  | .platformNotActive => .transientRejection .platformNotActive false
  | .invalidNodeAccount => .staleNodeIdentity .invalidNodeAccount
  | status => .terminalRejection status

def Status.classify (s : Status) : Outcome :=
  .transportFailure s (s.code == .unavailable || s.code == .resourceExhausted
    || s.code == .deadlineExceeded || s.isStreamReset)

end LedgerNet
