import LedgerNet.Node.Basic

/-!
The known nodes of one ledger. Each identity has one or more nodes; they are ranked by health, and changes in
bulk leave the nodes that they do not touch as they are.

An identity ranks as its best node does. A request is offered the best identities, a third of them unless a
count is set, which keeps the load on each node bounded and leaves room to route around dead ones.
-/
namespace LedgerNet

/-- How identities of nodes are ordered and shown. -/
class Identity (κ : Type) where
  order : κ → κ → Ordering
  text : κ → String

instance : Identity EntityId where
  order := EntityId.order
  text := EntityId.text

instance : Identity String where
  order a b := compareOfLessAndEq a b
  text := id

structure TopologyOptions where
  backoff : BackoffPolicy := {}
  secure : Bool := false
  verify : Bool := true
  maxNodes : Option Nat := none
  /-- A node is removed after this many failures in a row. -/
  maxFailures : Option Nat := none
  closeTimeout : Span := Span.ofSeconds 30
deriving DecidableEq, Repr, Inhabited

structure Topology (κ : Type) where
  backoff : BackoffPolicy
  maxFailures : Option Nat
  closeTimeout : Span
  ledger : Option LedgerId
  nodes : List (Node κ)
  /-- What the address book says of each identity. -/
  book : List (κ × AddressBookEntry)
  secure : Bool
  verify : Bool
  maxNodes : Option Nat
  nextSeq : Nat
  /-- Where the round robin goes on. -/
  turn : Nat

structure NetworkChange where
  added : Nat
  removed : Nat
  unchanged : Nat
deriving DecidableEq, Repr, Inhabited

def NetworkChange.isNoop (c : NetworkChange) : Bool := c.added == 0 && c.removed == 0

/-- What one attempt needs to know of a node. Opening its channel can fail, which counts against the attempt. -/
structure Lease (κ : Type) where
  id : κ
  endpoint : Endpoint
  health : NodeHealth
  channel : Except Status ChannelId

namespace Topology

variable {κ : Type}

def empty (o : TopologyOptions) : Topology κ :=
  ⟨o.backoff, o.maxFailures, o.closeTimeout, none, [], [], o.secure, o.verify, o.maxNodes, 0, 0⟩

def nodeAt? (t : Topology κ) (endpoint : Endpoint) : Option (Node κ) :=
  t.nodes.find? (·.endpoint == endpoint)

def health? (t : Topology κ) (endpoint : Endpoint) : Option NodeHealth := (t.nodeAt? endpoint).map (·.health)

def updateAt (endpoint : Endpoint) (f : Node κ → Node κ) : List (Node κ) → List (Node κ)
  | [] => []
  | n :: rest => if n.endpoint == endpoint then f n :: rest else n :: updateAt endpoint f rest

def removeAt (endpoint : Endpoint) : List (Node κ) → List (Node κ)
  | [] => []
  | n :: rest => if n.endpoint == endpoint then rest else n :: removeAt endpoint rest

def replace (node : Node κ) (nodes : List (Node κ)) : List (Node κ) :=
  nodes.map fun n => if n.seq == node.seq then node else n

variable [DecidableEq κ] [Identity κ]

def nodesOf (t : Topology κ) (id : κ) : List (Node κ) := t.nodes.filter (·.id == id)

def bestOf? (t : Topology κ) (id : κ) : Option (Node κ) := Node.best? (t.nodesOf id)

def bestHealth? (t : Topology κ) (id : κ) : Option NodeHealth := (t.bestOf? id).map (·.health)

def contains (t : Topology κ) (id : κ) : Bool := t.nodes.any (·.id == id)

def entryOf? (t : Topology κ) (id : κ) : Option AddressBookEntry := t.book.lookup id

def ids (t : Topology κ) : List κ := (t.nodes.map (·.id)).eraseDups

def size (t : Topology κ) : Nat := t.ids.length

/-- The identity at each endpoint; of nodes at one endpoint the last. -/
def network (t : Topology κ) : EndpointMap κ := EndpointMap.ofPairs (t.nodes.map fun n => (n.endpoint, n.id))

def rankedIds (t : Topology κ) : List κ :=
  ((t.ids.filterMap t.bestOf?).mergeSort fun a b => !b.before a).map (·.id)

def select (t : Topology κ) : List κ :=
  let ranked := t.rankedIds
  ranked.take (nodesPerRequest ranked.length t.maxNodes)

def leaseNode (t : Topology κ) (node : Node κ) (net : LocalNet) : Lease κ × Topology κ × LocalNet :=
  let (channel, connected, net) := node.connect net
  (⟨node.id, node.endpoint, node.health, channel⟩, { t with nodes := replace connected t.nodes }, net)

/-- Leases the best node of an identity. -/
def lease (t : Topology κ) (id : κ) (net : LocalNet) : Option (Lease κ) × Topology κ × LocalNet :=
  match t.bestOf? id with
  | none => (none, t, net)
  | some node =>
    let (lease, t, net) := t.leaseNode node net
    (some lease, t, net)

/-- The place of the node whose turn it is: the first eligible one from where the round robin goes on, or the
first of those that are eligible the soonest. -/
def nextPlace? (t : Topology κ) (now : Instant) : Option Nat :=
  let count := t.nodes.length
  let start := t.turn % max count 1
  let eligible (place : Nat) : Bool := t.nodes[place]?.any (·.health.isEligible now)
  (((List.range count).map fun offset => (start + offset) % count).find? eligible).or
    ((List.range count).foldl (fun found place =>
      match found with
      | none => some place
      | some other =>
        let soonness (place : Nat) : Nat := (t.nodes[place]?.map (·.health.eligibleAt)).getD 0
        some (if soonness place < soonness other then place else other)) none)

def leaseNext (t : Topology κ) (net : LocalNet) : Option (Lease κ) × Topology κ × LocalNet :=
  match t.nextPlace? net.now with
  | none => (none, t, net)
  | some place =>
    match t.nodes[place]? with
    | none => (none, t, net)
    | some node =>
      let (lease, t, net) := { t with turn := (place + 1) % t.nodes.length }.leaseNode node net
      (some lease, t, net)

def markSuccess (t : Topology κ) (endpoint : Endpoint) (now : Instant) : Topology κ :=
  { t with nodes := updateAt endpoint (fun n => { n with health := n.health.succeed t.backoff now }) t.nodes }

/-- What marking a failure did: the node's new health, and the channel to be closed if the node was removed. -/
structure Marked where
  health : NodeHealth
  retired : List ChannelId

/-- Benches the node at an endpoint, and removes it if it has failed too often. -/
def markFailure (t : Topology κ) (endpoint : Endpoint) (net : LocalNet) :
    Option Marked × Topology κ × LocalNet :=
  match t.nodeAt? endpoint with
  | none => (none, t, net)
  | some node =>
    let health := node.health.fail t.backoff net.now
    if t.maxFailures.any (· ≤ health.failures) then
      (some ⟨health, node.channel.toList⟩, { t with nodes := removeAt endpoint t.nodes },
        net.report (.nodeRemoved (Identity.text node.id) endpoint health.failures))
    else
      (some ⟨health, []⟩, { t with nodes := updateAt endpoint (fun n => { n with health }) t.nodes }, net)

/-- The wanted nodes under a mode of security; the last identity given for an endpoint wins. -/
def desired (secure : Bool) (network : List (Endpoint × κ)) : EndpointMap κ :=
  EndpointMap.ofPairs (network.map fun (e, id) => (e.withSecurity secure, id))

def entryOrder (a b : Endpoint × κ) : Bool :=
  ((Identity.order a.2 b.2).then (Endpoint.order a.1 b.1)) != .gt

def enter (t : Topology κ) (now : Instant) (pair : Endpoint × κ) : Topology κ :=
  let node : Node κ :=
    { id := pair.2, endpoint := pair.1, verify := t.verify, entry := t.entryOf? pair.2,
      health := .fresh t.backoff now, seq := t.nextSeq }
  { t with nodes := t.nodes ++ [node], nextSeq := t.nextSeq + 1 }

/-- Replaces the node set. Nodes whose endpoint and identity stay keep their health and channel; the channels of
removed nodes are handed back to be closed. -/
def replaceNetwork (t : Topology κ) (network : List (Endpoint × κ)) (now : Instant) :
    NetworkChange × List ChannelId × Topology κ :=
  let wanted := desired t.secure network
  let (kept, gone) := t.nodes.partition fun n => wanted.get? n.endpoint == some n.id
  let added := (wanted.filter fun (e, _) => !kept.any (·.endpoint == e)).mergeSort entryOrder
  (⟨added.length, gone.length, kept.length⟩, gone.filterMap (·.channel),
    added.foldl (fun t pair => t.enter now pair) { t with nodes := kept })

/-- Moves every node, handing back its channel to be closed. -/
def moveAll (t : Topology κ) (endpoint : Endpoint → Endpoint) (verify : Node κ → Bool) (now : Instant) :
    List ChannelId × Topology κ :=
  (t.nodes.filterMap (·.channel),
    { t with nodes := t.nodes.map fun n => n.moved (endpoint n.endpoint) (verify n) t.backoff now })

/-- Switches every node between plain and TLS ports, unless that mode is on already. -/
def switchSecurity (t : Topology κ) (secure : Bool) (now : Instant) : Option (List ChannelId × Topology κ) :=
  if t.secure = secure then none
  else some (moveAll { t with secure } (·.withSecurity secure) (·.verify) now)

/-- Turns the checking of certificates on or off, unless it is so already. Open channels are dropped, so that the
next attempt connects under the new rule. -/
def switchVerify (t : Topology κ) (verify : Bool) (now : Instant) : Option (List ChannelId × Topology κ) :=
  if t.verify = verify then none
  else some (moveAll { t with verify } id (fun _ => verify) now)

def clear (t : Topology κ) : List ChannelId × Topology κ :=
  (t.nodes.filterMap (·.channel), { t with nodes := [] })

def putEntry (id : κ) (entry : AddressBookEntry) : List (κ × AddressBookEntry) → List (κ × AddressBookEntry)
  | [] => [(id, entry)]
  | (id', entry') :: rest =>
    if id' == id then (id, entry) :: rest else (id', entry') :: putEntry id entry rest

end Topology

namespace Topology

/-- Takes one entry of an address book on record. One that lacks a hash keeps the hash already known. -/
def recordEntry (book : List (AccountId × AddressBookEntry)) (entry : AddressBookEntry) :
    List (AccountId × AddressBookEntry) :=
  let merged := match book.lookup entry.account with
    | some previous => entry.inherit previous
    | none => entry
  putEntry entry.account merged book

/-- Takes an address book on record, and gives every node the entry of its account. -/
def applyBook (t : Topology AccountId) (book : AddressBook) (net : LocalNet) : Topology AccountId × LocalNet :=
  let record := book.nodes.foldl recordEntry t.book
  ({ t with
      book := record
      nodes := t.nodes.map fun n => { n with entry := (record.lookup n.id).or n.entry } },
    net.report (.bookApplied book.nodes.length))

end Topology

end LedgerNet
