import LedgerNet.Scheduler

/-!
The client: consensus nodes that take requests, mirrors that stream topics, and an address book that can be fetched
anew. Once a client is closed it refuses all further work, and closing it again does nothing.

Settings name the consensus nodes. When they name none, the address book that is bundled for the ledger does.
-/
namespace LedgerNet

structure ClientSetup where
  config : Config := {}
  ledger : Option LedgerId := none
  /-- Where address books are fetched; without it none ever is. -/
  source : Option BookSource := none
  codec : MirrorCodec := .json
  /-- Whether the client starts the threads it runs on, for want of any. -/
  ownsRuntime : Bool := false

structure Client where
  config : Config
  codec : MirrorCodec
  ownsRuntime : Bool
  system : System

inductive CallSite where
  | outside
  /-- On the only thread that could do the work. -/
  | soleWorker
  /-- On one of several workers, which hands its work over while it waits. -/
  | worker
deriving DecidableEq, Repr

namespace Client

/-- The mirrors named by some texts. Each is known by its endpoint's text. -/
def mirrorEntries (mirrors : List String) : Except ClientError (List (Endpoint × String)) :=
  mirrors.mapM fun mirror => (Endpoint.parseText mirror).map fun e => (e, e.text)

def topologyOptions (c : Config) : TopologyOptions where
  backoff := { floor := c.nodeBackoff.1, ceiling := c.nodeBackoff.2 }
  secure := c.transportSecurity
  verify := c.verifyCertificates
  maxNodes := c.maxNodesPerRequest.map (·.toNat)
  maxFailures := c.maxNodeFailures.map (·.toNat)
  closeTimeout := c.closeTimeout

def consensusTopology (setup : ClientSetup) (net : LocalNet) : Topology AccountId × LocalNet :=
  let t : Topology AccountId := { Topology.empty (topologyOptions setup.config) with ledger := setup.ledger }
  if setup.config.network.isEmpty then
    match setup.ledger.bind AddressBook.bundled with
    | none => (t, net)
    | some book =>
      let (t, net) := t.applyBook book net
      ((t.replaceNetwork book.toNetwork net.now).2.2, net)
  else ((t.replaceNetwork setup.config.network net.now).2.2, net)

/-- The mirrors that a client begins with. They speak without TLS, and are never removed for failing. -/
def mirrorTopology (setup : ClientSetup) (mirrors : List (Endpoint × String)) (now : Instant) : Topology String :=
  let options := { topologyOptions setup.config with secure := false, maxFailures := none }
  let t : Topology String := { Topology.empty options with ledger := setup.ledger }
  (t.replaceNetwork mirrors now).2.2

def build (setup : ClientSetup) (net : LocalNet) : Except ClientError Client := do
  setup.config.validate
  let (consensus, net) := consensusTopology setup net
  let mirrors ← mirrorEntries setup.config.mirrors
  let mirror := mirrorTopology setup mirrors net.now
  let net := net.report (.clientReady setup.ledger consensus.size mirror.size setup.config.transportSecurity)
  return {
    config := setup.config, codec := setup.codec, ownsRuntime := setup.ownsRuntime
    system := { world := { net, consensus, mirror, source := setup.source } } }

/-- A client of a ledger with default settings. -/
def forLedger (ledger : LedgerId) (ownsRuntime : Bool) (net : LocalNet) : Except ClientError Client :=
  build { ledger := some ledger, ownsRuntime } net

def world (c : Client) : World := c.system.world

def isClosed (c : Client) : Bool := c.world.closed

def ledger (c : Client) : Option LedgerId := c.world.consensus.ledger

def updateWorld (c : Client) (f : World → World) : Client :=
  { c with system := { c.system with world := f c.world } }

def activeSubscriptions (c : Client) : Nat := c.world.live.length

def mirrorNames (c : Client) : List String :=
  (c.world.mirror.network.map (·.2)).mergeSort fun a b => compare a b != .gt

def carryOut {β : Type} (c : Client) (operation : World → Operation β × World) : Option β × Client :=
  let (answer, system) := c.system.carryOut operation
  (answer, { c with system })

/-- Carries out an operation, unless the client is closed. -/
def whileOpen {β : Type} (c : Client) (operation : World → Operation β × World) :
    Option (Except ClientError β) × Client :=
  if c.isClosed then (some (.error .closed), c)
  else
    let (answer, c) := c.carryOut operation
    (answer.map .ok, c)

def execute {α : Type} (c : Client) (request : Request α) :
    Option (Except ClientError (Executed α)) × Client :=
  if c.isClosed then (some (.error .closed), c)
  else
    c.carryOut fun w =>
      (.request (.start request (.ofConfig c.config) w.source.isSome w) id, w)

/-- Runs a request while the caller's thread waits. Where that thread is needed for the work itself, the request
is refused. -/
def executeBlocking {α : Type} (c : Client) (site : CallSite) (request : Request α) :
    Option (Except ClientError (Executed α)) × Client :=
  match site with
  | .soleWorker => (some (.error .blockingOnRuntime), c)
  | .outside | .worker => c.execute request

/-- Runs a request under a policy of its own, and without ever refreshing the address book. -/
def executeWith {α : Type} (c : Client) (policy : RetryPolicy) (request : Request α) :
    Option (Except ClientError (Executed α)) × Client :=
  c.carryOut fun w => (.request (.start request policy false w) id, w)

/-- Streams a topic to a subscriber. What the query leaves open comes from the settings. -/
def subscribe (c : Client) (query : TopicQuery) (handlers : Handlers) :
    Except ClientError SubscriptionId × Client :=
  if c.isClosed then (.error .closed, c)
  else
    let (id, w) := c.world.subscribe
    let query := query.orDefaults c.config.streamMaxAttempts.toNat c.config.streamMaxBackoff
    let drive : Drive := { id, codec := c.codec, handlers, query }
    (.ok id, { c with system := (c.system.follow w).spawn (.drive drive) })

/-- Closes a subscription. No callback of it starts from now on. -/
def unsubscribe (c : Client) (id : SubscriptionId) : Client :=
  { c with system := c.system.follow (c.world.unsubscribe id) }

def setNetwork (c : Client) (network : List (Endpoint × AccountId)) :
    Option (Except ClientError NetworkChange) × Client :=
  c.whileOpen (Slot.consensus.setNetwork network)

def setMirrors (c : Client) (mirrors : List String) : Option (Except ClientError NetworkChange) × Client :=
  if c.isClosed then (some (.error .closed), c)
  else match mirrorEntries mirrors with
    | .error e => (some (.error e), c)
    | .ok entries => c.whileOpen (Slot.mirror.setNetwork entries)

def setSecurity (c : Client) (secure : Bool) : Option (Except ClientError Bool) × Client :=
  c.whileOpen (Slot.consensus.setSecurity secure)

def setVerify (c : Client) (verify : Bool) : Option (Except ClientError Bool) × Client :=
  c.whileOpen (Slot.consensus.setVerify verify)

def setBook (c : Client) (book : AddressBook) : Client :=
  c.updateWorld fun w =>
    let (consensus, net) := w.consensus.applyBook book w.net
    { w with consensus, net }

def setMaxNodes (c : Client) (count : Option Nat) : Client :=
  c.updateWorld fun w => { w with consensus := { w.consensus with maxNodes := count } }

/-- Fetches the address book and applies it. The inner option is empty when the fetch breaks down. -/
def refresh (c : Client) : Option (Except ClientError NetworkChange) × Client :=
  if c.isClosed then (some (.error .closed), c)
  else if c.world.source.isNone then (some (.error (.config "no address book source configured")), c)
  else
    let (answer, c) := c.carryOut fun w => (.refresh { background := false } id, w)
    (answer.join, c)

/-- Cancels every subscription and closes every channel. -/
def close (c : Client) : Option Unit × Client :=
  if c.isClosed then (some (), c) else c.carryOut (Operation.teardown c.ownsRuntime)

def rest (c : Client) (span : Span) : Client := (c.carryOut (Operation.rest span ())).2

def settled (c : Client) : Client := { c with system := c.system.settled }

end Client

end LedgerNet
