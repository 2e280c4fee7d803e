import LedgerNet.Report.Value
import LedgerNet.Subscription.ChunkBuffer
import LedgerNet.Subscription.Drive

/-!
Reports on what goes over the wire: outcomes, queries and items of streams, and what services and subscribers saw.
-/
namespace LedgerNet.Report

open Text
open Json (Value)

def outcome (o : Outcome) : Value :=
  let fields : String × List (String × Value) := match o with
    | .success => ("Success", [])
    | .transportFailure s retry => ("TransportFailure", [("status", status s), ("retry", bool retry)])
    | .transientRejection s same => ("TransientRejection", [("status", text s.name), ("retry_same_node", bool same)])
    | .staleNodeIdentity s => ("StaleNodeIdentity", [("status", text s.name)])
    | .terminalRejection s => ("TerminalRejection", [("status", text s.name)])
  obj ([("outcome", text fields.1), ("success", bool o.isSuccess), ("retryable", bool o.isRetryable)] ++ fields.2)

def query (q : TopicQuery) : Value :=
  obj [("topic", text q.topic.text), ("start", option timestamp q.start), ("end", option timestamp q.stop),
    ("limit", nat q.limit.toNat), ("max_attempts", option nat q.maxAttempts),
    ("max_backoff", option span q.maxBackoff), ("attempt_budget", nat q.attemptBudget),
    ("backoff_ceiling", span q.backoffCeiling), ("wire", text (Wire.encodeQuery q))]

def chunk (c : ChunkInfo) : Value :=
  obj [("id", text c.transactionId), ("number", nat c.number.toNat), ("total", nat c.total.toNat)]

def response (r : TopicResponse) : Value :=
  obj [("timestamp", timestamp r.timestamp), ("sequence", nat r.sequence.toNat),
    ("running_hash", hex r.runningHash), ("contents", hex r.contents), ("chunk", option chunk r.chunk),
    ("single", bool r.isSingle)]

def message (m : TopicMessage) : Value :=
  obj [("timestamp", timestamp m.timestamp), ("sequence", nat m.sequence.toNat),
    ("running_hash", hex m.runningHash), ("contents", hex m.contents), ("chunks", nat m.chunks.toNat),
    ("initial_transaction_id", option text m.transactionId)]

def chunks (b : ChunkBuffer) : List TopicResponse → List Value
  | [] => []
  | r :: rest =>
    let (b, m) := b.accept r
    obj [("message", option message m), ("pending", nat b.pending), ("empty", bool b.isEmpty)] :: chunks b rest

def submitted (s : Submitted) : Value := obj [("node", text s.node.text), ("hash", text s.hash)]

/-- The payload of a call; of a submission, what it holds and whether its signatures do. -/
def payload (method body : String) : Value :=
  if method = submitMethod then
    match Wire.Envelope.decode (Symbol.ofString body) with
    | .error _ => text "undecodable"
    | .ok e =>
      obj [("node", text e.node.text), ("signatures", nat e.signatures.length),
        ("valid", bool (Simulation.ConsensusNode.allHold e)), ("body", text e.body)]
  else text body

def sighting : Sighting → Value
  | .opened e o refused =>
    obj [("open", text e.stored), ("tls", bool o.tls), ("verify", bool o.verify), ("hash", option text o.hash),
      ("refused", bool refused)]
  | .called method body => obj [("call", text method), ("payload", payload method body)]
  | .streamed method body => obj [("stream", text method), ("query", text body)]
  | .fetched => text "fetch"

def event (e : Event) : Value :=
  list [text e.level.name, text e.message, obj (e.fields.map fun (k, v) => (k, text v))]

def delivery : Instant × Delivery → Value
  | (t, .next m) => list [span t, text "next", message m]
  | (t, .error e) => list [span t, text "error", subscriptionError e]
  | (t, .complete) => list [span t, text "complete", null]

end LedgerNet.Report
