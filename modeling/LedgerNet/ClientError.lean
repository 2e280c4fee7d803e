import LedgerNet.EntityId
import LedgerNet.Endpoint
import LedgerNet.Outcome

/-!
The ways in which the client's operations fail, and what is said of each.
-/
namespace LedgerNet

/-- The coarse kinds of failure, for callers who only ask whether to try again later. -/
inductive ErrorKind where
  | transportFailure
  | transientLedgerRejection
  | staleNodeIdentity
  | terminalLedgerRejection
  | exhaustedRetries
  | timeout
  | invalidInput
  | codec
  | closed
deriving DecidableEq, Repr

inductive ClientError where
  | invalidEndpoint (input : String) (fault : Endpoint.Fault)
  | invalidEntityId (input : String)
  | config (why : String)
  | emptyTopology
  | transport (node : String) (attempt : Nat) (status : Status)
  /-- The node said "not now"; only ever the last error of exhausted retries. -/
  | transientRejection (status : LedgerStatus) (node : String) (attempt : Nat)
  /-- The node answers for another account than the address book says. -/
  | staleNodeIdentity (status : LedgerStatus) (node : String) (attempt : Nat)
  | rejected (status : LedgerStatus) (node : String) (attempt : Nat)
  /-- The budget of attempts or of node visits ran out. -/
  | exhaustedRetries (attempts nodesVisited : Nat) (last : Option ClientError)
  | requestTimeout (attempts elapsedMs : Nat)
  | codec (why : String)
  | signing (why : String)
  | addressBook (why : String)
  | closed
  /-- A blocking call was made where it would stall the very loop that it waits on. -/
  | blockingOnRuntime
deriving Repr, Inhabited

namespace ClientError

/-- An error that arises at most once per attempt carries no other; only exhausted retries do. -/
def message : ClientError → String
  | .invalidEndpoint input fault => Endpoint.complaint input fault
  | .invalidEntityId input => EntityId.complaint input
  | .config why => s!"invalid configuration: {why}"
  | .emptyTopology => "topology is empty"
  | .transport node attempt status => s!"transport failure on node {node} (attempt {attempt}): {status}"
  | .transientRejection status node attempt =>
    s!"transient rejection {status} from node {node} (attempt {attempt})"
  | .staleNodeIdentity status node attempt =>
    s!"node {node} reported {status}; its account mapping is stale (attempt {attempt})"
  | .rejected status node attempt => s!"request rejected with {status} by node {node} (attempt {attempt})"
  | .exhaustedRetries attempts nodesVisited _ =>
    s!"retries exhausted after {attempts} attempts across {nodesVisited} nodes"
  | .requestTimeout attempts elapsedMs => s!"request timed out after {elapsedMs}ms ({attempts} attempts)"
  | .codec why => s!"codec error: {why}"
  | .signing why => s!"signing failed: {why}"
  | .addressBook why => s!"address book error: {why}"
  | .closed => "client is closed"
  | .blockingOnRuntime => "cannot block on a current-thread runtime; use the async call"

instance : ToString ClientError := ⟨message⟩

def kind : ClientError → ErrorKind
  | .invalidEndpoint .. | .invalidEntityId _ | .config _ | .emptyTopology | .addressBook _
  | .blockingOnRuntime => .invalidInput
  | .transport .. => .transportFailure
  | .transientRejection .. => .transientLedgerRejection
  | .staleNodeIdentity .. => .staleNodeIdentity
  | .rejected .. => .terminalLedgerRejection
  | .exhaustedRetries .. => .exhaustedRetries
  | .requestTimeout .. => .timeout
  | .codec _ | .signing _ => .codec
  | .closed => .closed

def ledgerStatus? : ClientError → Option LedgerStatus
  | .transientRejection status .. | .staleNodeIdentity status .. | .rejected status .. => some status
  | _ => none

end ClientError

def EntityId.parse (s : String) : Except ClientError EntityId :=
  match EntityId.parse? s with
  | some id => .ok id
  | none => .error (.invalidEntityId s)

def Endpoint.parseText (s : String) : Except ClientError Endpoint :=
  (Endpoint.parse s).mapError (.invalidEndpoint s)

inductive SubscriptionError where
  | noMirrorNodes
  /-- A failure worth a retry kept recurring until the budget of reconnects ran out. -/
  | retriesExhausted (status : Status) (attempts : Nat)
  /-- The stream failed in a way that is not worth a retry. -/
  | terminal (status : Status)
  | codec (why : String)
deriving DecidableEq, Repr

namespace SubscriptionError

def message : SubscriptionError → String
  | .noMirrorNodes => "no mirror nodes configured"
  | .retriesExhausted status attempts => s!"stream failed after {attempts} attempts: {status}"
  | .terminal status => s!"stream failed: {status}"
  | .codec why => s!"failed to decode stream item: {why}"

def isRetryable : SubscriptionError → Bool
  | .retriesExhausted .. => true
  | _ => false

end SubscriptionError

end LedgerNet
