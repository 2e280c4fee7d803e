import LedgerNet.Json.Typed
import LedgerNet.Json.Value
import LedgerNet.Time.Calendar

/-!
Consensus time: seconds since 1970 and nanoseconds.
-/
namespace LedgerNet

structure Timestamp where
  seconds : Int64
  nanos : UInt32
deriving DecidableEq, Repr, Inhabited

namespace Timestamp

def nanosPerSecond : Nat := 1000000000

/-- The instant `n` nanoseconds later, with full seconds carried over. -/
def plusNanos (t : Timestamp) (n : Nat) : Timestamp :=
  let total := t.nanos.toNat + n
  ⟨Int64.ofInt (t.seconds.toInt + (total / nanosPerSecond : Nat)), UInt32.ofNat (total % nanosPerSecond)⟩

/-- Whether the seconds of the instant `n` nanoseconds later fit into 64 bits. -/
def reaches (t : Timestamp) (n : Nat) : Bool :=
  t.seconds.toInt + ((t.nanos.toNat + n) / nanosPerSecond : Nat) ≤ Int64.maxValue.toInt

def ofParts (seconds : Int64) (nanos : UInt32) : Timestamp := plusNanos ⟨seconds, 0⟩ nanos.toNat

def order (a b : Timestamp) : Ordering :=
  (compare a.seconds.toInt b.seconds.toInt).then (compare a.nanos.toNat b.nanos.toNat)

def atMost (a b : Timestamp) : Bool := order a b != .gt

def hasDate (t : Timestamp) : Bool := Calendar.hasDate t.seconds.toInt t.nanos.toNat

/-- The date and time, or the bare numbers when there is no date. -/
def text (t : Timestamp) : String :=
  if t.hasDate then Calendar.text t.seconds.toInt t.nanos.toNat
  else s!"{t.seconds.toInt}.{Text.Natural.padded 9 t.nanos.toNat}"

instance : ToString Timestamp := ⟨text⟩

def layout : Json.Layout Timestamp where
  name := "Timestamp"
  fields := [.required "seconds" Json.integer64 fun seconds t => { t with seconds := Int64.ofInt seconds },
    .required "nanos" Json.word32 fun nanos t => { t with nanos := UInt32.ofNat nanos }]
  blank := ⟨0, 0⟩

def reading : Json.Reading Timestamp := layout.read

def toJson (t : Timestamp) : Json.Value :=
  .obj [("seconds", .int t.seconds.toInt), ("nanos", .int t.nanos.toNat)]

end Timestamp

end LedgerNet
