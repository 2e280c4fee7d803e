import LedgerNet.ClientError
import LedgerNet.Network.EndpointMap
import LedgerNet.Time.Span

/-!
The client's settings, their defaults, and the rules by which settings are refused. Durations are stored in
milliseconds; a stored document names only what it changes.
-/
namespace LedgerNet

structure Config where
  network : EndpointMap AccountId := []
  mirrors : List String := []
  transportSecurity : Bool := false
  verifyCertificates : Bool := true
  maxAttempts : UInt32 := 10
  minBackoffMs : UInt64 := 250
  maxBackoffMs : UInt64 := 8000
  minNodeBackoffMs : UInt64 := 8000
  maxNodeBackoffMs : UInt64 := 3600000
  attemptTimeoutMs : UInt64 := 10000
  requestTimeoutMs : UInt64 := 120000
  closeTimeoutMs : UInt64 := 30000
  maxNodesPerRequest : Option UInt64 := none
  maxNodeVisits : Option UInt64 := none
  maxNodeFailures : Option UInt32 := none
  streamMaxAttempts : UInt32 := 10
  streamMaxBackoffMs : UInt64 := 8000
deriving DecidableEq, Repr, Inhabited

namespace Config

def bits32 : Json.Reading UInt32 := fun t => (Json.word32 t).map UInt32.ofNat

def bits64 : Json.Reading UInt64 := fun t => (Json.word64 t).map UInt64.ofNat

def count : Json.Reading UInt64 := fun t => (Json.size t).map UInt64.ofNat

def networkReading : Json.Reading (EndpointMap AccountId) := fun t =>
  (Json.entries Endpoint.ofStored EntityId.reading t).map EndpointMap.ofPairs

def layout : Json.Layout Config where
  name := "ClientConfig"
  fields := [
    .defaulted "network" networkReading fun v c => { c with network := v },
    .defaulted "mirror_network" (Json.sequence Json.string) fun v c => { c with mirrors := v },
    .defaulted "transport_security" Json.boolean fun v c => { c with transportSecurity := v },
    .defaulted "verify_certificates" Json.boolean fun v c => { c with verifyCertificates := v },
    .defaulted "max_attempts" bits32 fun v c => { c with maxAttempts := v },
    .defaulted "min_backoff_ms" bits64 fun v c => { c with minBackoffMs := v },
    .defaulted "max_backoff_ms" bits64 fun v c => { c with maxBackoffMs := v },
    .defaulted "min_node_backoff_ms" bits64 fun v c => { c with minNodeBackoffMs := v },
    .defaulted "max_node_backoff_ms" bits64 fun v c => { c with maxNodeBackoffMs := v },
    .defaulted "attempt_timeout_ms" bits64 fun v c => { c with attemptTimeoutMs := v },
    .defaulted "request_timeout_ms" bits64 fun v c => { c with requestTimeoutMs := v },
    .defaulted "close_timeout_ms" bits64 fun v c => { c with closeTimeoutMs := v },
    .defaulted "max_nodes_per_request" (Json.optional count) fun v c => { c with maxNodesPerRequest := v },
    .defaulted "max_node_visits" (Json.optional count) fun v c => { c with maxNodeVisits := v },
    .defaulted "max_node_failures" (Json.optional bits32) fun v c => { c with maxNodeFailures := v },
    .defaulted "stream_max_attempts" bits32 fun v c => { c with streamMaxAttempts := v },
    .defaulted "stream_max_backoff_ms" bits64 fun v c => { c with streamMaxBackoffMs := v }]
  blank := {}

def toJson (c : Config) : Json.Value :=
  let word (w : UInt64) : Json.Value := .int w.toNat
  .obj [("network", .obj (c.network.map fun (e, id) => (e.stored, id.toJson))),
    ("mirror_network", .arr (c.mirrors.map .str)),
    ("transport_security", .bool c.transportSecurity),
    ("verify_certificates", .bool c.verifyCertificates),
    ("max_attempts", .int c.maxAttempts.toNat),
    ("min_backoff_ms", word c.minBackoffMs),
    ("max_backoff_ms", word c.maxBackoffMs),
    ("min_node_backoff_ms", word c.minNodeBackoffMs),
    ("max_node_backoff_ms", word c.maxNodeBackoffMs),
    ("attempt_timeout_ms", word c.attemptTimeoutMs),
    ("request_timeout_ms", word c.requestTimeoutMs),
    ("close_timeout_ms", word c.closeTimeoutMs),
    ("max_nodes_per_request", .ofOption word c.maxNodesPerRequest),
    ("max_node_visits", .ofOption word c.maxNodeVisits),
    ("max_node_failures", .ofOption (fun w => .int w.toNat) c.maxNodeFailures),
    ("stream_max_attempts", .int c.streamMaxAttempts.toNat),
    ("stream_max_backoff_ms", word c.streamMaxBackoffMs)]

def badMirror? (mirrors : List String) : Option ClientError :=
  mirrors.findSome? fun mirror =>
    match Endpoint.parseText mirror with
    | .ok _ => none
    | .error e => some e

def exceeds (low : String) (a : UInt64) (high : String) (b : UInt64) : ClientError :=
  .config s!"{low} ({a.toNat}) exceeds {high} ({b.toNat})"

/-- Refuses settings that cannot be honoured; the first broken rule is named. -/
def validate (c : Config) : Except ClientError Unit :=
  if c.maxAttempts = 0 then .error (.config "max_attempts must be at least 1")
  else if c.minBackoffMs > c.maxBackoffMs then
    .error (exceeds "min_backoff_ms" c.minBackoffMs "max_backoff_ms" c.maxBackoffMs)
  else if c.minNodeBackoffMs > c.maxNodeBackoffMs then
    .error (exceeds "min_node_backoff_ms" c.minNodeBackoffMs "max_node_backoff_ms" c.maxNodeBackoffMs)
  else if c.streamMaxBackoffMs < 500 then .error (.config "stream_max_backoff_ms must be at least 500")
  else if c.attemptTimeoutMs = 0 ∨ c.requestTimeoutMs = 0 then .error (.config "timeouts must be non-zero")
  else if c.maxNodesPerRequest = some 0 ∨ c.maxNodeVisits = some 0 then
    .error (.config "node limits must be at least 1 when set")
  else match badMirror? c.mirrors with
    | some e => .error e
    | none => .ok ()

def ofSymbols (symbols : List Text.Symbol) : Except ClientError Config := do
  let c ← (Json.readSymbols layout.read symbols).mapError fun fault => .config fault.message
  c.validate
  return c

def ofText (text : String) : Except ClientError Config := ofSymbols (Text.Symbol.ofString text)

def nodeBackoff (c : Config) : Span × Span :=
  (Span.ofMillis c.minNodeBackoffMs.toNat, Span.ofMillis c.maxNodeBackoffMs.toNat)

def closeTimeout (c : Config) : Span := Span.ofMillis c.closeTimeoutMs.toNat

def streamMaxBackoff (c : Config) : Span := Span.ofMillis c.streamMaxBackoffMs.toNat

end Config

/-- How many nodes a request is offered when `size` are known: a third of them and at least one, or a given
count, but never more than there are. -/
def nodesPerRequest (size : Nat) (override : Option Nat) : Nat :=
  match override with
  | some count => min count size
  | none => min (max ((size + 2) / 3) 1) size

end LedgerNet
