import LedgerNet.Subscription.Message
import LedgerNet.Subscription.Query
import LedgerNet.Text.Hex

/-!
What the client and a mirror say to each other: queries and items of a stream, as JSON with bytes in hexadecimal.
-/
namespace LedgerNet.Wire

open Text

def bytesField (name value : String) : Except ClientError Bytes :=
  (Hex.decode value).mapError fun fault => .codec s!"{name}: {fault.message}"

def decode {α : Type} (read : Json.Reading α) (symbols : List Symbol) : Except ClientError α :=
  (Json.readSymbols read symbols).mapError fun fault => .codec fault.message

structure MirrorQuery where
  topic : TopicId
  start : Option Timestamp
  stop : Option Timestamp
  limit : UInt64
deriving DecidableEq, Repr, Inhabited

namespace MirrorQuery

def ofQuery (q : TopicQuery) : MirrorQuery := ⟨q.topic, q.start, q.stop, q.limit⟩

def layout : Json.Layout MirrorQuery where
  name := "WireTopicQuery"
  fields := [
    .required "topic_id" EntityId.reading fun v q => { q with topic := v },
    .defaulted "start_time" (Json.optional Timestamp.reading) fun v q => { q with start := v },
    .defaulted "end_time" (Json.optional Timestamp.reading) fun v q => { q with stop := v },
    .defaulted "limit" Json.word64 fun v q => { q with limit := UInt64.ofNat v }]
  blank := ⟨⟨0, 0, 0⟩, none, none, 0⟩

/-- A member that is left out when there is no value. -/
def member (name : String) (t : Option Timestamp) : List (String × Json.Value) :=
  (t.map fun t => (name, t.toJson)).toList

def toJson (q : MirrorQuery) : Json.Value :=
  .obj ([("topic_id", q.topic.toJson)] ++ member "start_time" q.start ++ member "end_time" q.stop
    ++ [("limit", .int q.limit.toNat)])

end MirrorQuery

def encodeQuery (q : TopicQuery) : String := (MirrorQuery.ofQuery q).toJson.compact

def decodeQuery (symbols : List Symbol) : Except ClientError MirrorQuery := decode MirrorQuery.layout.read symbols

structure MirrorItem where
  timestamp : Timestamp
  sequence : UInt64
  runningHash : String
  message : String
  chunk : Option ChunkInfo
deriving DecidableEq, Repr, Inhabited

namespace MirrorItem

def ofResponse (r : TopicResponse) : MirrorItem :=
  ⟨r.timestamp, r.sequence, Hex.encode r.runningHash, Hex.encode r.contents, r.chunk⟩

/-- The item with its bytes read; the running hash is read first. -/
def toResponse (i : MirrorItem) : Except ClientError TopicResponse := do
  let runningHash ← bytesField "running_hash" i.runningHash
  let contents ← bytesField "message" i.message
  return ⟨i.timestamp, i.sequence, runningHash, contents, i.chunk⟩

def layout : Json.Layout MirrorItem where
  name := "WireTopicResponse"
  fields := [
    .required "consensus_timestamp" Timestamp.reading fun v i => { i with timestamp := v },
    .required "sequence_number" Json.word64 fun v i => { i with sequence := UInt64.ofNat v },
    .required "running_hash" Json.string fun v i => { i with runningHash := v },
    .required "message" Json.string fun v i => { i with message := v },
    .defaulted "chunk_info" (Json.optional ChunkInfo.layout.read) fun v i => { i with chunk := v }]
  blank := ⟨⟨0, 0⟩, 0, "", "", none⟩

def toJson (i : MirrorItem) : Json.Value :=
  .obj ([("consensus_timestamp", i.timestamp.toJson), ("sequence_number", .int i.sequence.toNat),
      ("running_hash", .str i.runningHash), ("message", .str i.message)]
    ++ (i.chunk.map fun c => ("chunk_info", c.toJson)).toList)

end MirrorItem

def encodeResponse (r : TopicResponse) : String := (MirrorItem.ofResponse r).toJson.compact

def decodeResponse (symbols : List Symbol) : Except ClientError TopicResponse := do
  (← decode MirrorItem.layout.read symbols).toResponse

def decodeResponseText (text : String) : Except ClientError TopicResponse :=
  decodeResponse (Symbol.ofString text)

end LedgerNet.Wire
