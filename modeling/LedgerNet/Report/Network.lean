import LedgerNet.Client
import LedgerNet.Report.Traffic

/-!
Reports on nodes, topologies and the network as a whole.
-/
namespace LedgerNet.Report

open Json (Value)

def health (now : Instant) (h : NodeHealth) : Value :=
  obj [("eligible_at", span h.eligibleAt), ("backoff", span h.backoff), ("failures", nat h.failures),
    ("eligible", bool (h.isEligible now)), ("remaining", span (h.remaining now))]

def plan (p : RetryPlan) : Value :=
  obj [("delay", span p.delay), ("advance", bool p.advance), ("penalize", bool p.penalize),
    ("refresh", bool p.refresh)]

def change (c : NetworkChange) : Value :=
  obj [("added", nat c.added), ("removed", nat c.removed), ("unchanged", nat c.unchanged),
    ("noop", bool c.isNoop)]

def entry (e : AddressBookEntry) : Value := text e.toJson.compact

def opening {α : Type} (channel : Except Status α) : Value := reply (fun _ => text "open") channel

section

variable {κ : Type} [DecidableEq κ] [Identity κ]

def identity (id : κ) : Value := text (Identity.text id)

/-- A topology, its nodes in the order of their endpoints' texts. -/
def topology (now : Instant) (t : Topology κ) : Value :=
  let nodes := t.network.mergeSort fun a b => compare a.1.stored b.1.stored != .gt
  obj [("nodes", list (nodes.map fun (e, id) =>
      list [text e.stored, identity id, option (health now) (t.health? e)])),
    ("len", nat t.size), ("count", nat t.nodes.length), ("empty", bool t.nodes.isEmpty),
    ("secure", bool t.secure), ("verify", bool t.verify), ("max_nodes", option nat t.maxNodes),
    ("ledger", option (fun l => text l.name) t.ledger)]

def lease (now : Instant) (l : Lease κ) : Value :=
  obj [("id", identity l.id), ("endpoint", text l.endpoint.stored), ("health", health now l.health),
    ("channel", opening l.channel)]

def node (now : Instant) (n : Node κ) : Value :=
  obj [("id", identity n.id), ("endpoint", text n.endpoint.stored), ("verify", bool n.verify), ("seq", nat n.seq),
    ("connected", bool n.channel.isSome), ("health", health now n.health), ("entry", option entry n.entry)]

end

def executed {α : Type} (timed : Bool) (f : α → Value) (e : Executed α) : Value :=
  obj ([("node", text e.node.text), ("attempts", nat e.attempts), ("value", f e.value)] ++
    (if timed then [("elapsed", span e.elapsed)] else []))

def channels (net : LocalNet) : Value := list [nat net.openedCount, nat net.closedCount]

/-- What was seen, and what was reported if `logs` asks for it; the network forgets both. -/
def seen (logs : Bool) (net : LocalNet) : List (String × Value) × LocalNet :=
  let (journal, net) := net.takeJournal
  let (events, net) := net.takeEvents
  ([("channels", channels net),
    ("log", list (journal.map fun s => list [span s.time, text s.who, sighting s.what]))] ++
    (if logs then [("logs", list (events.map event))] else []), net)

def metrics (m : Simulation.Metrics) : Value :=
  obj [("unavailable", nat (m.faults.count "unavailable")), ("busy", nat (m.faults.count "busy")),
    ("served", nat m.served), ("breaks", nat m.breaks)]

end LedgerNet.Report
