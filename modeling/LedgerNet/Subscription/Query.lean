import LedgerNet.ClientError
import LedgerNet.Time.Span
import LedgerNet.Time.Timestamp

/-!
What to stream of a topic, and how hard to try.
-/
namespace LedgerNet

structure TopicQuery where
  topic : TopicId
  start : Option Timestamp := none
  stop : Option Timestamp := none
  /-- Items to deliver in all; zero means no limit. -/
  limit : UInt64 := 0
  /-- Reconnects allowed; unset, the client's setting holds. -/
  maxAttempts : Option Nat := none
  /-- The longest delay before a reconnect; unset, the client's setting holds. -/
  maxBackoff : Option Span := none
deriving DecidableEq, Repr, Inhabited

namespace TopicQuery

/-- Caps the delay before a reconnect, by no less than the shortest delay. -/
def withMaxBackoff (q : TopicQuery) (span : Span) : Except ClientError TopicQuery :=
  if span < Span.streamBase then .error (.config s!"max_backoff must be at least {Span.streamBase.millis}ms")
  else .ok { q with maxBackoff := some span }

def orDefaults (q : TopicQuery) (maxAttempts : Nat) (maxBackoff : Span) : TopicQuery :=
  { q with maxAttempts := q.maxAttempts.or (some maxAttempts), maxBackoff := q.maxBackoff.or (some maxBackoff) }

def attemptBudget (q : TopicQuery) : Nat := q.maxAttempts.getD 10

def backoffCeiling (q : TopicQuery) : Span := q.maxBackoff.getD (Span.ofSeconds 8)

/-- The query that goes on after `emitted` items, the last of them at `last`: from one nanosecond later, for
what the limit leaves. There is none when the limit is met. -/
def resume (q : TopicQuery) (last : Option Timestamp) (emitted : Nat) : Option TopicQuery :=
  if 0 < q.limit.toNat ∧ q.limit.toNat ≤ emitted then none
  else
    some { q with
      limit := if 0 < q.limit.toNat then UInt64.ofNat (q.limit.toNat - emitted) else 0
      start := match last with
        | some t => some (t.plusNanos 1)
        | none => q.start }

end TopicQuery

end LedgerNet
