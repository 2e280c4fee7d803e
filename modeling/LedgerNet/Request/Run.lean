import LedgerNet.World

/-!
One request as it runs: it looks for an eligible candidate, sends, and decides from the outcome whether to retry,
until it succeeds, is rejected, or a budget or its time runs out.

A run is a state and a step. Between two steps anything may happen to the rest of the world; within one step
nothing does. A step ends where the request begins to wait. What it does from its look at the clock to its call waits
for nothing and is one step on one topology, although it looks at the topology more than once, and others who share it
in threads of their own could come between two looks: they are taken to come before or after.
Attempts never overlap, and every wait has an end.
-/
namespace LedgerNet

open Text

structure Executed (α : Type) where
  value : α
  node : AccountId
  attempts : Nat
  elapsed : Span
deriving Repr

structure Calling where
  node : AccountId
  endpoint : Endpoint
  budget : Span
  deadline : Instant
  ticket : Ticket

structure Benching where
  endpoint : Endpoint
  health : NodeHealth
  closing : Closing
  plan : RetryPlan
  error : ClientError

inductive RequestPhase (α : Type) where
  | deciding
  | pausing (ends : Instant)
  | calling (c : Calling)
  | benching (b : Benching)
  | finished (result : Except ClientError (Executed α))

structure RequestRun (α : Type) where
  request : Request α
  policy : RetryPolicy
  /-- Whether a stale identity has the address book fetched anew. -/
  refreshes : Bool
  startedAt : Instant
  pending : PendingRequest AccountId
  phase : RequestPhase α

namespace RequestRun

variable {α : Type}

/-- Begins a request with the candidates on which the caller insists, or those that the topology offers. -/
def start (request : Request α) (policy : RetryPolicy) (refreshes : Bool) (w : World) : RequestRun α :=
  let candidates := if request.isPinned then request.nodeIds.getD [] else w.consensus.select
  { request, policy, refreshes, startedAt := w.now, pending := { candidates }
    phase := if candidates.isEmpty then .finished (.error .emptyTopology) else .deciding }

/-- A run that ends before it has begun. -/
def refuse (request : Request α) (policy : RetryPolicy) (w : World) (error : ClientError) : RequestRun α :=
  { request, policy, refreshes := false, startedAt := w.now, pending := { candidates := [] }
    phase := .finished (.error error) }

def elapsed (run : RequestRun α) (now : Instant) : Span := now - run.startedAt

def left (run : RequestRun α) (now : Instant) : Span := run.policy.requestTimeout - run.elapsed now

def finish (run : RequestRun α) (result : Except ClientError (Executed α)) : RequestRun α :=
  { run with phase := .finished result }

/-- Where the cursor goes: to a candidate that can be tried, or to the one that recovers the soonest. -/
inductive Focus where
  | ready (place : Nat)
  | wait (place : Nat) (span : Span)

/-- Looks through candidates at the given places for one that can be tried, keeping the one that recovers the
soonest. Candidates without a node are passed over. -/
def scanPlaces (t : Topology AccountId) (candidates : List AccountId) (now : Instant) :
    Option (Nat × Span) → List Nat → Option Focus
  | soonest, [] => soonest.map fun (place, span) => .wait place span
  | soonest, place :: rest =>
    match candidates[place]?.bind t.bestHealth? with
    | none => scanPlaces t candidates now soonest rest
    | some health =>
      if health.isEligible now then some (.ready place)
      else
        let span := health.remaining now
        let soonest := match soonest with
          | some (place', span') => if span < span' then (place, span) else (place', span')
          | none => (place, span)
        scanPlaces t candidates now (some soonest) rest

def scan (t : Topology AccountId) (p : PendingRequest AccountId) (now : Instant) : Option Focus :=
  let count := p.candidates.length
  scanPlaces t p.candidates now none ((List.range count).map fun offset => (p.cursor + offset) % count)

/-- Chooses the candidate to be tried next. When no candidate has a node any more, a request that insists on none
takes what the topology offers now. -/
def focus (run : RequestRun α) (t : Topology AccountId) (now : Instant) :
    Option (Focus × PendingRequest AccountId) :=
  match scan t run.pending now with
  | some f => some (f, run.pending)
  | none =>
    if run.request.isPinned then none
    else
      let fresh := t.select
      if fresh.isEmpty || run.pending.candidates == fresh then none
      else
        let p := run.pending.replaceCandidates fresh
        (scan t p now).map fun f => (f, p)

def proceed (run : RequestRun α) (plan : RetryPlan) (error : ClientError) (w : World) : RequestRun α × World :=
  let w := if plan.refresh && run.refreshes then w.trigger.2 else w
  let (wrapped, p) := run.pending.apply plan error
  let p :=
    if wrapped && !run.request.isPinned then
      let fresh := w.consensus.select
      if fresh.isEmpty then p else p.replaceCandidates fresh
    else p
  let phase :=
    if plan.delay = 0 then .deciding else .pausing (Instant.wake (w.now + min plan.delay (run.left w.now)))
  ({ run with pending := p, phase }, w)

/-- Carries out what an outcome means. `endpoint` is missing when the node had left the topology. -/
def settle (run : RequestRun α) (node : AccountId) (endpoint : Option Endpoint) (outcome : Outcome)
    (value : Option α) (w : World) : RequestRun α × World :=
  let p := run.pending
  match p.judge run.policy outcome with
  | .complete =>
    let w := match endpoint with
      | some e => { w with consensus := w.consensus.markSuccess e w.now }
      | none => w
    match value with
    | none => (run.finish (.error (.codec "successful response produced no value")), w)
    | some value =>
      (run.finish (.ok ⟨value, node, p.attempt, run.elapsed w.now⟩),
        w.report (.requestSucceeded node.text p.attempt))
  | .fail error => (run.finish (.error error), w.report (.requestFailed node.text p.attempt error))
  | .retry plan error =>
    let w := w.report (.retryingRequest node.text p.attempt error plan.delay.millis plan.advance)
    match if plan.penalize then endpoint else none with
    | none => run.proceed plan error w
    | some e =>
      match w.consensus.markFailure e w.net with
      | (none, consensus, net) => run.proceed plan error { w with consensus, net }
      | (some marked, consensus, net) =>
        let (closing, net) := net.beginClose marked.retired consensus.closeTimeout
        ({ run with phase := .benching ⟨e, marked.health, closing, plan, error⟩ }, { w with consensus, net })

/-- Begins an attempt at a node. A node that is not there to be leased fails it. In a step that has just found the node
it always is there; it could only be lost to somebody who came between the two looks at the topology. -/
def attempt (run : RequestRun α) (node : AccountId) (w : World) : RequestRun α × World :=
  match w.consensus.lease node w.net with
  | (none, _, _) =>
    run.settle node none (Status.unavailable s!"node {node} left the topology").classify none w
  | (some lease, consensus, net) =>
    let w := { w with consensus, net }
    match lease.channel with
    | .error status => run.settle node (some lease.endpoint) status.classify none w
    | .ok channel =>
      match run.request.encode node with
      | .error e => (run.finish (.error e), w)
      | .ok payload =>
        let w := w.report (.sendingRequest node.text lease.endpoint run.pending.attempt run.request.method)
        let w := w.report (.requestPayload node.text (Hex.encode (Utf8.encode payload)))
        let budget := min run.policy.attemptTimeout (run.left w.now)
        let (ticket, net) := w.net.call channel run.request.method payload
        ({ run with phase := .calling ⟨node, lease.endpoint, budget, Instant.wake (w.now + budget), ticket⟩ },
          { w with net })

def receive (run : RequestRun α) (c : Calling) (w : World) : RequestRun α × World :=
  if !c.ticket.isHere w.now then
    run.settle c.node (some c.endpoint)
      (Status.deadlineExceeded s!"no response within {c.budget.millis}ms").classify none w
  else
    match c.ticket.answer with
    | .error status => run.settle c.node (some c.endpoint) status.classify none w
    | .ok response =>
      let w := w.report (.responsePayload c.node.text (Hex.encode (Utf8.encode response)))
      match run.request.status response with
      | .error e => (run.finish (.error e), w)
      | .ok status =>
        let outcome := run.request.classify status
        if outcome.isSuccess then
          match run.request.value response c.node with
          | .error e => (run.finish (.error e), w)
          | .ok value => run.settle c.node (some c.endpoint) outcome (some value) w
        else run.settle c.node (some c.endpoint) outcome none w

/-- Decides what to do next: give up for lack of time, wait for a candidate, or begin an attempt. Nothing is waited for
on the way, so that the candidate is chosen, its node leased and the call made on the same topology. -/
def decide (run : RequestRun α) (w : World) : RequestRun α × World :=
  let elapsed := run.elapsed w.now
  if run.policy.requestTimeout ≤ elapsed then
    (run.finish (.error (.requestTimeout run.pending.attempt elapsed.millis)),
      w.report (.requestTimedOut run.pending.attempt elapsed.millis))
  else
    match run.focus w.consensus w.now with
    | none => (run.finish (.error .emptyTopology), w)
    | some (.wait place span, p) =>
      ({ run with
          pending := p.focus place
          phase := .pausing (Instant.wake (w.now + min span (run.left w.now))) },
        w.report (.waitingForNode span.millis))
    | some (.ready place, p) =>
      let p := p.focus place
      match p.begin? run.policy.maxAttempts run.policy.maxNodeVisits with
      | .error e => ({ run with pending := p }.finish (.error e), w)
      | .ok (node, p) => { run with pending := p }.attempt node w

def waiting (run : RequestRun α) : Waiting :=
  match run.phase with
  | .deciding => .nothing
  | .pausing ends => .time ends
  | .calling c => .sooner c.ticket.arrives c.deadline
  | .benching b => .time b.closing.ends
  | .finished _ => .forever

def step (run : RequestRun α) (w : World) : RequestRun α × World :=
  match run.phase with
  | .deciding => run.decide w
  | .pausing _ => ({ run with phase := .deciding }, w)
  | .calling c => run.receive c w
  | .benching b =>
    let w := { w with net := w.net.endClose b.closing }
    let w := w.report (.nodeUnhealthy b.endpoint b.health.backoff.millis b.health.failures)
    run.proceed b.plan b.error w
  | .finished _ => (run, w)

def result? (run : RequestRun α) : Option (Except ClientError (Executed α)) :=
  match run.phase with
  | .finished result => some result
  | _ => none

end RequestRun

end LedgerNet
