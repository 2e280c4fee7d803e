import LedgerNet.EntityId
import LedgerNet.Time.Timestamp

/-!
Items of a topic's stream, and the messages they make up. A long message is submitted in chunks that share the
id of the transaction that carried the first.
-/
namespace LedgerNet

open Text

/-- The place of a chunk within its message, counted from one. -/
structure ChunkInfo where
  transactionId : String
  number : UInt32
  total : UInt32
deriving DecidableEq, Repr, Inhabited

namespace ChunkInfo

def layout : Json.Layout ChunkInfo where
  name := "ChunkInfo"
  fields := [
    .required "initial_transaction_id" Json.string fun v c => { c with transactionId := v },
    .required "number" Json.word32 fun v c => { c with number := UInt32.ofNat v },
    .required "total" Json.word32 fun v c => { c with total := UInt32.ofNat v }]
  blank := ⟨"", 0, 0⟩

def toJson (c : ChunkInfo) : Json.Value :=
  .obj [("initial_transaction_id", .str c.transactionId), ("number", .int c.number.toNat),
    ("total", .int c.total.toNat)]

end ChunkInfo

structure TopicResponse where
  timestamp : Timestamp
  sequence : UInt64
  runningHash : Bytes
  contents : Bytes
  chunk : Option ChunkInfo
deriving DecidableEq, Repr, Inhabited

namespace TopicResponse

def isSingle (r : TopicResponse) : Bool := r.chunk.all (·.total ≤ 1)

/-- The number of a chunk; an item that is none counts as zero. -/
def chunkNumber (r : TopicResponse) : Nat := (r.chunk.map (·.number.toNat)).getD 0

end TopicResponse

/-- A message as it is delivered. Of one in chunks, everything but the contents and the count comes from the
chunk with the highest number. -/
structure TopicMessage where
  timestamp : Timestamp
  sequence : UInt64
  runningHash : Bytes
  contents : Bytes
  chunks : UInt32
  transactionId : Option String
deriving DecidableEq, Repr, Inhabited

namespace TopicMessage

def single (r : TopicResponse) : TopicMessage :=
  ⟨r.timestamp, r.sequence, r.runningHash, r.contents, 1, r.chunk.map (·.transactionId)⟩

/-- Chunks in the order of their numbers; those of one number stay as they came. -/
def inOrder (parts : List TopicResponse) : List TopicResponse :=
  parts.mergeSort fun a b => a.chunkNumber ≤ b.chunkNumber

/-- The message that some chunks make up; there must be at least one. -/
def assemble (parts : List TopicResponse) : Option TopicMessage :=
  let sorted := inOrder parts
  sorted.getLast?.map fun last =>
    ⟨last.timestamp, last.sequence, last.runningHash, sorted.flatMap (·.contents), UInt32.ofNat sorted.length,
      last.chunk.map (·.transactionId)⟩

end TopicMessage

end LedgerNet
