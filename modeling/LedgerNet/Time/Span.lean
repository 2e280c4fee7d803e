/-!
Spans of time in nanoseconds, up to the longest that 64 bits of seconds can hold, and the delays between
attempts. Arithmetic stops at the longest span.
-/
namespace LedgerNet

abbrev Span := Nat

abbrev Instant := Nat

namespace Span

def nanosPerMilli : Nat := 1000000

def longest : Span := 0x10000000000000000 * 1000000000 - 1

def ofMillis (ms : Nat) : Span := ms * nanosPerMilli

def ofSeconds (s : Nat) : Span := s * 1000000000

def millis (s : Span) : Nat := s / nanosPerMilli % 0x10000000000000000

def times (s : Span) (n : Nat) : Span := min (s * n) longest

/-- The delay after the `attempt`-th attempt: the floor doubled with each one, up to the ceiling. -/
def requestBackoff (attempt : Nat) (floor ceiling : Span) : Span :=
  min (floor.times (Nat.pow 2 (min (attempt - 1) 31))) ceiling

def streamBase : Span := ofMillis 500

/-- The delay before the reconnect that follows `attempt` others, up to the ceiling. -/
def streamBackoff (attempt : Nat) (ceiling : Span) : Span :=
  min (streamBase.times (Nat.pow 2 (min attempt 31))) ceiling

def inUnit (s unit : Nat) (name : String) : String :=
  let part := s % unit
  let digits := (Nat.toDigits 10 (unit + part)).drop 1
  let kept := (digits.reverse.dropWhile (· == '0')).reverse
  toString (s / unit) ++ (if kept.isEmpty then "" else "." ++ String.ofList kept) ++ name

/-- A span in the largest unit that it fills. -/
def text (s : Span) : String :=
  if 1000000000 ≤ s then inUnit s 1000000000 "s"
  else if 1000000 ≤ s then inUnit s 1000000 "ms"
  else if 1000 ≤ s then inUnit s 1000 "µs"
  else inUnit s 1 "ns"

end Span

/-- The longest that a caller rests at a time: thirty years of 365 days. -/
def Span.longestRest : Span := Span.ofSeconds (30 * 365 * 86400)

/-- The first whole millisecond at or after an instant: when a sleep until then ends. -/
def Instant.wake (t : Instant) : Instant :=
  (t + (Span.nanosPerMilli - 1)) / Span.nanosPerMilli * Span.nanosPerMilli

end LedgerNet
