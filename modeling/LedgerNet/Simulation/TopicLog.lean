import LedgerNet.Digest.Sha2
import LedgerNet.Subscription.Message

/-!
Generated topic logs: numbered messages, every n-th of them in chunks, with rising sequence numbers and
timestamps and a running hash over the pieces.
-/
namespace LedgerNet.Simulation

open Text

structure TopicLog where
  topic : TopicId
  messages : Nat
  /-- Every n-th message is in chunks; none is when this is zero. -/
  chunkEvery : Nat
  chunks : Nat

def piecesOf (size : Nat) : Nat → Bytes → List Bytes
  | 0, _ => []
  | _, [] => []
  | fuel + 1, bytes => bytes.take size :: piecesOf size fuel (bytes.drop size)

/-- Splits bytes into at most `parts` pieces, none of them empty. -/
def split (bytes : Bytes) (parts : Nat) : List Bytes :=
  let parts := max parts 1
  let size := max ((bytes.length + parts - 1) / parts) 1
  piecesOf size bytes.length bytes

structure LogState where
  sequence : Nat
  time : Timestamp
  hash : Bytes

def itemGap : Nat := 1000000

def LogState.item (s : LogState) (chunk : Option ChunkInfo) (piece : Bytes) : TopicResponse × LogState :=
  let next : LogState := ⟨s.sequence + 1, s.time.plusNanos itemGap, Sha2.sha384 (s.hash ++ piece)⟩
  (⟨next.time, UInt64.ofNat next.sequence, next.hash, piece, chunk⟩, next)

/-- The items of a message's pieces, the first of them with number `number`. -/
def LogState.items (s : LogState) (id : String) (total number : Nat) : List Bytes → List TopicResponse × LogState
  | [] => ([], s)
  | piece :: rest =>
    let chunk := if 1 < total then some ⟨id, UInt32.ofNat number, UInt32.ofNat total⟩ else none
    let (first, s) := s.item chunk piece
    let (more, s) := s.items id total (number + 1) rest
    (first :: more, s)

namespace TopicLog

def body (log : TopicLog) (n : Nat) : Bytes := Utf8.encode s!"message {n} on topic {log.topic}"

def messagePieces (log : TopicLog) (n : Nat) : List Bytes :=
  if 0 < log.chunkEvery ∧ 1 < log.chunks ∧ n % log.chunkEvery = 0 then split (log.body n) log.chunks
  else [log.body n]

def transactionId (time : Timestamp) : String := s!"0.0.2@{time.seconds.toInt}.{time.nanos.toNat}"

def itemsFrom (log : TopicLog) (s : LogState) (n : Nat) : Nat → List TopicResponse
  | 0 => []
  | count + 1 =>
    let pieces := log.messagePieces n
    let (items, s) := s.items (transactionId s.time) pieces.length 1 pieces
    items ++ itemsFrom log s (n + 1) count

def generate (log : TopicLog) (start : Timestamp) : List TopicResponse :=
  log.itemsFrom ⟨0, start, List.replicate 48 0⟩ 1 log.messages

end TopicLog

end LedgerNet.Simulation
