import LedgerNet.Status
import LedgerNet.Time.Span

/-!
Calls in flight: what a service has promised to answer, and when. Payloads are texts.
-/
namespace LedgerNet

/-- The answer to a single call, and the instant it arrives; none if it never does. -/
structure Ticket where
  arrives : Option Instant
  answer : Except Status String

/-- An open stream: what it has yet to send, the wait before each element, and whether it stays open after the
last. `metered` streams are counted by the simulator as their elements are sent. -/
structure Stream where
  elements : List (Except Status String)
  interval : Span
  staysOpen : Bool
  metered : Bool

/-- The answer to a request for a stream; none if it never comes. -/
abbrev StreamTicket := Option (Except Status Stream)

namespace Ticket

def now (at' : Instant) (answer : Except Status String) : Ticket := ⟨some at', answer⟩

def isHere (t : Ticket) (now : Instant) : Bool := t.arrives.any (· ≤ now)

end Ticket

inductive Pull where
  | element (ready : Instant) (item : Except Status String) (rest : Stream)
  | ended
  | never

def Stream.pull (s : Stream) (now : Instant) : Pull :=
  match s.elements with
  | item :: rest => .element (Instant.wake (now + s.interval)) item { s with elements := rest }
  | [] => if s.staysOpen then .never else .ended

end LedgerNet
