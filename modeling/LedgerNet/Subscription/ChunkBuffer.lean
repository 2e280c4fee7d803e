import LedgerNet.Subscription.Message

/-!
The chunks received so far of messages that are not complete. The buffer outlives a single stream: a reconnect
goes on right after the last item received, so a message split across a break still completes.
-/
namespace LedgerNet

/-- The chunks held for each transaction, in the order in which transactions were first seen. -/
structure ChunkBuffer where
  held : List (String × List TopicResponse) := []
deriving DecidableEq, Repr, Inhabited

namespace ChunkBuffer

def parts (b : ChunkBuffer) (id : String) : List TopicResponse := (b.held.lookup id).getD []

/-- Replaces what is held for a transaction, or holds it from now on. -/
def put (id : String) (parts : List TopicResponse) :
    List (String × List TopicResponse) → List (String × List TopicResponse)
  | [] => [(id, parts)]
  | (id', parts') :: rest => if id' = id then (id, parts) :: rest else (id', parts') :: put id parts rest

def drop (b : ChunkBuffer) (id : String) : ChunkBuffer := ⟨b.held.filter (·.1 != id)⟩

/-- Takes one item. A message comes out when the item is one, or when as many chunks are held as the item
declares. -/
def accept (b : ChunkBuffer) (r : TopicResponse) : ChunkBuffer × Option TopicMessage :=
  match r.chunk with
  | none => (b, some (.single r))
  | some info =>
    if info.total ≤ 1 then (b, some (.single r))
    else
      let parts := b.parts info.transactionId ++ [r]
      if parts.length < info.total.toNat then (⟨put info.transactionId parts b.held⟩, none)
      else (b.drop info.transactionId, TopicMessage.assemble parts)

def pending (b : ChunkBuffer) : Nat := b.held.length

def isEmpty (b : ChunkBuffer) : Bool := b.held.isEmpty

def acceptAll (b : ChunkBuffer) : List TopicResponse → ChunkBuffer × List TopicMessage
  | [] => (b, [])
  | r :: rest =>
    let (b, message) := b.accept r
    let (b, messages) := acceptAll b rest
    (b, message.toList ++ messages)

end ChunkBuffer

end LedgerNet
