import LedgerNet.Node.Health
import LedgerNet.Transport.LocalNet

/-!
A node of a network: one endpoint of one identity, its health, and the channel to it once there is one.
-/
namespace LedgerNet

structure Node (κ : Type) where
  id : κ
  endpoint : Endpoint
  verify : Bool
  entry : Option AddressBookEntry := none
  health : NodeHealth
  channel : Option ChannelId := none
  /-- The order in which nodes were entered; it settles ties of rank. -/
  seq : Nat

namespace Node

variable {κ : Type}

def channelOptions (n : Node κ) : ChannelOptions :=
  ⟨n.endpoint.isSecure, n.verify, n.entry.bind (·.certificateHash)⟩

def connect (n : Node κ) (net : LocalNet) : Except Status ChannelId × Node κ × LocalNet :=
  match n.channel with
  | some id => (.ok id, n, net)
  | none =>
    match net.openChannel n.endpoint n.channelOptions with
    | (.error status, net) => (.error status, n, net)
    | (.ok id, net) =>
      (.ok id, { n with channel := some id }, net.report (.channelOpened n.endpoint n.endpoint.isSecure))

/-- The node at another endpoint: its health is reset, and it has no channel yet. -/
def moved (n : Node κ) (endpoint : Endpoint) (verify : Bool) (p : BackoffPolicy) (now : Instant) : Node κ :=
  { n with endpoint, verify, health := n.health.reset p now, channel := none }

/-- Order of rank: the soonest eligible first, then the smallest backoff, then the oldest. -/
def rank (a b : Node κ) : Ordering :=
  (compare a.health.eligibleAt b.health.eligibleAt).then
    ((compare a.health.backoff b.health.backoff).then (compare a.seq b.seq))

def before (a b : Node κ) : Bool := a.rank b == .lt

/-- The best of some nodes; of equals the first. -/
def best? : List (Node κ) → Option (Node κ)
  | [] => none
  | n :: rest =>
    match best? rest with
    | none => some n
    | some m => some (if m.before n then m else n)

end Node

end LedgerNet
