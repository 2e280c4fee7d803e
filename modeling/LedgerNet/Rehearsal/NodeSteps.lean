import LedgerNet.Report.Network

/-!
Rehearsals of single parts, each step of which is reported: the health of one node, the retries of one request,
and bare nodes.
-/
namespace LedgerNet.Rehearsal

open Json (Value)
open Report

inductive HealthStep where
  | fail
  | succeed
  | reset
  | look
deriving DecidableEq, Repr

def HealthStep.run (p : BackoffPolicy) (now : Instant) (h : NodeHealth) : HealthStep → NodeHealth
  | .fail => h.fail p now
  | .succeed => h.succeed p now
  | .reset => h.reset p now
  | .look => h

def healthSteps (p : BackoffPolicy) (h : NodeHealth) : List (Instant × HealthStep) → List Value
  | [] => []
  | (now, step) :: rest =>
    let h := step.run p now h
    health now h :: healthSteps p h rest

inductive RetryStep where
  | begin
  | outcome (o : Outcome)
  /-- Carries out the retry that was decided last, if it has not been carried out. -/
  | apply
  | focus (place : Nat)
  | replace (candidates : List AccountId)

structure Retries where
  policy : RetryPolicy
  pending : PendingRequest AccountId
  decided : Option (RetryPlan × ClientError) := none

namespace Retries

def step (r : Retries) : RetryStep → Value × Retries
  | .begin =>
    match r.pending.begin? r.policy.maxAttempts r.policy.maxNodeVisits with
    | .error e => (error e, r)
    | .ok (node, pending) => (ok (identity node), { r with pending })
  | .outcome o =>
    match r.pending.judge r.policy o with
    | .complete => (text "complete", r)
    | .fail e => (obj [("fail", error e)], r)
    | .retry p e => (obj [("retry", plan p), ("because", error e)], { r with decided := some (p, e) })
  | .apply =>
    match r.decided with
    | none => (null, r)
    | some (p, e) =>
      let (wrapped, pending) := r.pending.apply p e
      (obj [("wrapped", bool wrapped)], { r with pending, decided := none })
  | .focus place => (null, { r with pending := r.pending.focus place })
  | .replace candidates => (null, { r with pending := r.pending.replaceCandidates candidates })

/-- The answer to each of some steps, and the request after it. -/
def run (r : Retries) : List RetryStep → List Value
  | [] => []
  | step :: rest =>
    let (answer, r) := r.step step
    let p := r.pending
    obj [("answer", answer), ("candidates", list (p.candidates.map identity)), ("cursor", nat p.cursor),
      ("attempt", nat p.attempt), ("visited", nat p.visited.length), ("current", option identity p.current?),
      ("last_error", option (fun e : ClientError => text e.message) p.lastError)] :: r.run rest

end Retries

inductive NodeStep where
  | fail
  | succeed
  | connect
  | take
  | move (endpoint : Endpoint) (verify : Bool)
  | entry (e : Option AddressBookEntry)

def NodeStep.run (p : BackoffPolicy) (now : Instant) (n : Node String) (net : LocalNet) :
    NodeStep → Value × Node String × LocalNet
  | .fail =>
    let h := n.health.fail p now
    (health now h, { n with health := h }, net)
  | .succeed =>
    let h := n.health.succeed p now
    (health now h, { n with health := h }, net)
  | .connect =>
    let (channel, n, net) := n.connect net
    (opening channel, n, net)
  | .take => (bool n.channel.isSome, { n with channel := none }, net)
  | .move endpoint verify => (bool n.channel.isSome, n.moved endpoint verify p now, net)
  | .entry e => (null, { n with entry := e }, net)

/-- The answer to each of some steps at the node with a number, and that node after it. Opens are shown without
their time, for bare nodes have no clock. -/
def nodeSteps (p : BackoffPolicy) (nodes : List (Node String)) (net : LocalNet) :
    List (Nat × Instant × NodeStep) → List Value
  | [] => []
  | (place, now, step) :: rest =>
    match nodes[place]? with
    | none => nodeSteps p nodes net rest
    | some n =>
      let (answer, n, net) := step.run p now n net
      let nodes := nodes.set place n
      let (journal, net) := net.takeJournal
      let ranked := nodes.mergeSort fun a b => a.rank b != .gt
      obj [("answer", answer), ("node", node now n), ("order", list (ranked.map fun n => identity n.id)),
        ("opens", list (journal.map fun s => list [text "", text s.who, sighting s.what])),
        ("channels", channels net)] :: nodeSteps p nodes net rest

end LedgerNet.Rehearsal
