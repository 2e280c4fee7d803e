import LedgerNet.Signature.Ed25519
import LedgerNet.Simulation.Chance
import LedgerNet.Simulation.Metrics
import LedgerNet.Simulation.TopicLog
import LedgerNet.Transport.Call
import LedgerNet.Wire.Consensus

/-!
Simulated nodes that misbehave on purpose: consensus nodes that drop calls or answer busy, and mirrors that cut
their first few streams short with the failures that real proxies produce.
-/
namespace LedgerNet.Simulation

open Text

/-- How often a node misbehaves, in calls of a million, and how long it may keep a caller waiting. -/
structure Faults where
  dropRate : Nat := 0
  busyRate : Nat := 0
  latencyMs : Nat := 0
deriving DecidableEq, Repr, Inhabited

def Faults.always : Nat := 1000000

structure ConsensusNode where
  name : String
  faults : Faults
  chance : Chance := {}

namespace ConsensusNode

def pairHolds (signed : Bytes) (pair : Wire.SignaturePair) : Bool :=
  match Hex.decode? pair.publicKey, Hex.decode? pair.signature with
  | some key, some signature => Ed25519.verify key signed signature
  | _, _ => false

def allHold (envelope : Wire.Envelope) : Bool :=
  match Hex.decode? envelope.body with
  | some signed => envelope.signatures.all (pairHolds signed)
  | none => false

/-- What a node makes of a payload, be it text or not. -/
def judge (payload : List Symbol) : LedgerStatus :=
  match Wire.Envelope.decode payload with
  | .error _ => .invalidTransaction
  | .ok envelope =>
    match Hex.decode? envelope.body with
    | none => .invalidTransaction
    | some signed =>
      if !envelope.signatures.isEmpty && envelope.signatures.all (pairHolds signed) then .ok else .invalidSignature

/-- What a node says to a payload when it draws `roll` of a million. -/
def reply (node : ConsensusNode) (payload : String) (roll : Nat) (metrics : Metrics) :
    Except Status String × Metrics :=
  if roll < node.faults.dropRate then
    (.error (.unavailable s!"{node.name} dropped the call"),
      { metrics with faults := metrics.faults.add "unavailable" 1 })
  else if roll < node.faults.dropRate + node.faults.busyRate then
    (.ok (Wire.NodeAnswer.encode ⟨.busy⟩), { metrics with faults := metrics.faults.add "busy" 1 })
  else (.ok (Wire.NodeAnswer.encode ⟨judge (Symbol.ofString payload)⟩), metrics)

def answer (node : ConsensusNode) (payload : String) (now : Instant) (metrics : Metrics) :
    Ticket × ConsensusNode × Metrics :=
  let (latency, chance) := node.chance.draw (node.faults.latencyMs + 1)
  let (roll, chance) := chance.draw Faults.always
  let (answer, metrics) := node.reply payload roll metrics
  (⟨some (Instant.wake (now + Span.ofMillis latency)), answer⟩, { node with chance }, metrics)

end ConsensusNode

structure Mirror where
  log : List TopicResponse
  breakAfter : Nat
  breaksLeft : Nat
  interval : Span

namespace Mirror

/-- The items that a query asks for. -/
def asked (log : List TopicResponse) (query : Wire.MirrorQuery) : List TopicResponse :=
  let inTime := log.filter fun r =>
    query.start.all (·.atMost r.timestamp) && query.stop.all fun stop => !stop.atMost r.timestamp
  if query.limit = 0 then inTime else inTime.take query.limit.toNat

/-- How a cut stream fails, given how many cuts are left: the two kinds of failure take turns. -/
def cut (left : Nat) : Status :=
  if left % 2 = 0 then .internal "upstream connect error: RST_STREAM" else .unavailable "mirror restarting"

/-- Opens a stream. One that is long enough is cut short while there are cuts left. -/
def openStream (mirror : Mirror) (payload : String) : Except Status Stream × Mirror :=
  match Wire.decodeQuery (Symbol.ofString payload) with
  | .error e => (.error ⟨.invalidArgument, e.message⟩, mirror)
  | .ok query =>
    let items : List (Except Status String) :=
      (asked mirror.log query).map fun r => .ok (Wire.encodeResponse r)
    if mirror.breakAfter < items.length ∧ 0 < mirror.breaksLeft then
      let left := mirror.breaksLeft - 1
      (.ok ⟨items.take mirror.breakAfter ++ [.error (cut left)], mirror.interval, false, true⟩,
        { mirror with breaksLeft := left })
    else (.ok ⟨items, mirror.interval, false, true⟩, mirror)

end Mirror

def Metrics.sent (metrics : Metrics) : Except Status String → Metrics
  | .ok _ => { metrics with served := metrics.served + 1 }
  | .error _ => { metrics with breaks := metrics.breaks + 1 }

end LedgerNet.Simulation
