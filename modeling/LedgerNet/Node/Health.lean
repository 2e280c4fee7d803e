import LedgerNet.Text.Natural
import LedgerNet.Time.Span

/-!
What is known of a node's reliability: how long it sits out after a failure, when it is next worth a try, and how
many times in a row it has failed. Health changes only with the result of an attempt; a benched node becomes
eligible because the clock moves on.
-/
namespace LedgerNet

/-- How the time on the bench grows with each failure. -/
structure BackoffPolicy where
  floor : Span := Span.ofSeconds 8
  ceiling : Span := Span.ofSeconds 3600
  growth : Nat := 2
deriving DecidableEq, Repr, Inhabited

def BackoffPolicy.grow (p : BackoffPolicy) (current : Span) : Span := min (current.times p.growth) p.ceiling

structure NodeHealth where
  eligibleAt : Instant
  backoff : Span
  failures : Nat
deriving DecidableEq, Repr, Inhabited

namespace NodeHealth

def fresh (p : BackoffPolicy) (now : Instant) : NodeHealth := ⟨now, p.floor, 0⟩

/-- Grows the backoff and benches the node for that long. Its eligibility always moves on, even when two
failures fall on one instant at the ceiling. -/
def fail (h : NodeHealth) (p : BackoffPolicy) (now : Instant) : NodeHealth :=
  let backoff := p.grow h.backoff
  ⟨max (now + backoff) (h.eligibleAt + 1), backoff, min (h.failures + 1) Text.Natural.max32⟩

def succeed (_ : NodeHealth) (p : BackoffPolicy) (now : Instant) : NodeHealth := ⟨now, p.floor, 0⟩

/-- Makes the node eligible after a change of how it is reached. The count of failures survives, so that a dead
node is still removed in the end. -/
def reset (h : NodeHealth) (p : BackoffPolicy) (now : Instant) : NodeHealth := ⟨now, p.floor, h.failures⟩

def isEligible (h : NodeHealth) (now : Instant) : Bool := h.eligibleAt ≤ now

def remaining (h : NodeHealth) (now : Instant) : Span := h.eligibleAt - now

end NodeHealth

end LedgerNet
