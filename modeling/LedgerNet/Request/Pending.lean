import LedgerNet.Config
import LedgerNet.Topology.Basic

/-!
The retries of one request: which candidates it has, whose turn it is, how often it was tried and which nodes it
has visited. What an outcome means for the request is decided without effects; carrying the decision out is left
to whoever runs the request.
-/
namespace LedgerNet

structure RetryPolicy where
  maxAttempts : Nat := 10
  minBackoff : Span := Span.ofMillis 250
  maxBackoff : Span := Span.ofSeconds 8
  /-- Distinct nodes that may be visited; unset, there is no limit. -/
  maxNodeVisits : Option Nat := none
  attemptTimeout : Span := Span.ofSeconds 10
  requestTimeout : Span := Span.ofSeconds 120
deriving DecidableEq, Repr, Inhabited

namespace RetryPolicy

def ofConfig (c : Config) : RetryPolicy where
  maxAttempts := c.maxAttempts.toNat
  minBackoff := Span.ofMillis c.minBackoffMs.toNat
  maxBackoff := Span.ofMillis c.maxBackoffMs.toNat
  maxNodeVisits := c.maxNodeVisits.map (·.toNat)
  attemptTimeout := Span.ofMillis c.attemptTimeoutMs.toNat
  requestTimeout := Span.ofMillis c.requestTimeoutMs.toNat

def backoff (p : RetryPolicy) (attempt : Nat) : Span := Span.requestBackoff attempt p.minBackoff p.maxBackoff

end RetryPolicy

structure RetryPlan where
  delay : Span
  advance : Bool
  penalize : Bool
  refresh : Bool
deriving DecidableEq, Repr, Inhabited

inductive Verdict where
  | complete
  | retry (plan : RetryPlan) (because : ClientError)
  | fail (error : ClientError)
deriving Repr

structure PendingRequest (κ : Type) where
  candidates : List κ
  cursor : Nat := 0
  attempt : Nat := 0
  /-- The nodes visited, latest first, each once. -/
  visited : List κ := []
  lastError : Option ClientError := none

namespace PendingRequest

variable {κ : Type}

def current? (p : PendingRequest κ) : Option κ := p.candidates[p.cursor]?

def focus (p : PendingRequest κ) (place : Nat) : PendingRequest κ :=
  if place < p.candidates.length then { p with cursor := place } else p

def replaceCandidates (p : PendingRequest κ) (candidates : List κ) : PendingRequest κ :=
  { p with candidates, cursor := 0 }

def exhausted (p : PendingRequest κ) (last : Option ClientError) : ClientError :=
  .exhaustedRetries p.attempt p.visited.length last

variable [DecidableEq κ] [Identity κ]

/-- Begins an attempt at the candidate whose turn it is, unless a budget is spent. Going back to a node that was
visited before spends no visit. -/
def begin? (p : PendingRequest κ) (maxAttempts : Nat) (maxVisits : Option Nat) :
    Except ClientError (κ × PendingRequest κ) :=
  match p.current? with
  | none => .error .emptyTopology
  | some node =>
    let known := p.visited.contains node
    let visitsSpent := maxVisits.any (· ≤ p.visited.length)
    if maxAttempts ≤ p.attempt ∨ (!known && visitsSpent) then .error (p.exhausted p.lastError)
    else
      .ok (node, { p with
        attempt := p.attempt + 1
        visited := if known then p.visited else node :: p.visited })

def currentText (p : PendingRequest κ) : String := (p.current?.map Identity.text).getD ""

def failure? (p : PendingRequest κ) : Outcome → Option ClientError
  | .success => none
  | .transportFailure status _ => some (.transport p.currentText p.attempt status)
  | .transientRejection status _ => some (.transientRejection status p.currentText p.attempt)
  | .staleNodeIdentity status => some (.staleNodeIdentity status p.currentText p.attempt)
  | .terminalRejection status => some (.rejected status p.currentText p.attempt)

/-- How a retry after an outcome goes, before any pause at the end of a round. -/
def basePlan (policy : RetryPolicy) (attempt : Nat) : Outcome → RetryPlan
  | .transientRejection _ true => ⟨policy.backoff attempt, false, false, false⟩
  | .transientRejection _ false => ⟨0, true, false, false⟩
  | .staleNodeIdentity _ => ⟨0, true, true, true⟩
  | _ => ⟨0, true, true, false⟩

/-- The plan of a retry. When every candidate has had its turn there is a pause before the next round. -/
def plan (p : PendingRequest κ) (policy : RetryPolicy) (outcome : Outcome) : RetryPlan :=
  let base := basePlan policy p.attempt outcome
  if base.advance && p.candidates.length ≤ p.cursor + 1 then
    { base with delay := max base.delay (policy.backoff p.attempt) }
  else base

/-- Decides what an outcome means. A failure that is worth a retry is one while the budget of attempts lasts. -/
def judge (p : PendingRequest κ) (policy : RetryPolicy) (outcome : Outcome) : Verdict :=
  match p.failure? outcome with
  | none => .complete
  | some error =>
    if !outcome.isRetryable then .fail error
    else if policy.maxAttempts ≤ p.attempt then .fail (p.exhausted (some error))
    else .retry (p.plan policy outcome) error

/-- Carries a retry out, and says whether the round began anew. -/
def apply (p : PendingRequest κ) (plan : RetryPlan) (error : ClientError) : Bool × PendingRequest κ :=
  let p := { p with lastError := some error }
  if !plan.advance then (false, p)
  else if p.candidates.length ≤ p.cursor + 1 then (true, { p with cursor := 0 })
  else (false, { p with cursor := p.cursor + 1 })

end PendingRequest

end LedgerNet
