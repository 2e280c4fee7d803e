import LedgerNet.Report.Network

/-!
Rehearsals of channels, topologies and clients in scripted surroundings. Each step has an answer, and after it is
reported what services and transport saw.
-/
namespace LedgerNet.Rehearsal

open Json (Value)
open Report

inductive ServiceStep where
  | register (key name : String) (service : Service)
  | deregister (key : String)
  | allowOpen (endpoint : Endpoint)

def ServiceStep.run (net : LocalNet) : ServiceStep → Value × LocalNet
  | .register key name service => (null, net.register key name service)
  | .deregister key =>
    let (was, net) := net.deregister key
    (bool was, net)
  | .allowOpen endpoint => (null, net.allowOpen endpoint)

structure CallStep where
  method : String
  payload : String
  streams : Bool := false

def CallStep.run (c : CallStep) (channel : ChannelId) (s : System) : Value × System :=
  if c.streams then
    let (answer, s) := s.carryOut (Operation.stream channel c.method c.payload)
    (option (reply fun items => list (items.map (reply text))) answer, s)
  else
    let (answer, s) := s.carryOut (Operation.call channel c.method c.payload)
    (option (reply text) answer, s)

def withNet (s : System) (net : LocalNet) : System := { s with world := { s.world with net } }

def bareSystem (net : LocalNet) (source : Option BookSource) : System :=
  { world := { net, consensus := .empty {}, mirror := .empty {}, source } }

/-- Answers steps one after the other, and reports what was seen along with what `shown` shows of the state. -/
def narrate {σ τ : Type} (logs : Bool) (step : τ → σ → Value × σ)
    (shown : σ → List (String × Value) × σ) (net : σ → LocalNet) (putNet : σ → LocalNet → σ) :
    σ → List τ → List Value
  | _, [] => []
  | s, t :: rest =>
    let (answer, s) := step t s
    let (state, s) := shown s
    let (sights, after) := seen logs (net s)
    let s := putNet s after
    obj (("answer", answer) :: state ++ sights) :: narrate logs step shown net putNet s rest

inductive ChannelStep where
  | services (step : ServiceStep)
  | openAs (name : String) (endpoint : Endpoint) (options : ChannelOptions)
  | call (name : String) (call : CallStep)
  | close (name : String)

structure Channels where
  system : System
  names : List (String × ChannelId) := []

namespace Channels

def step (step : ChannelStep) (c : Channels) : Value × Channels :=
  let net := c.system.world.net
  match step with
  | .services step =>
    let (answer, net) := step.run net
    (answer, { c with system := withNet c.system net })
  | .openAs name endpoint options =>
    let (channel, net) := net.openChannel endpoint options
    let names := match channel with
      | .ok id => (name, id) :: c.names
      | .error _ => c.names
    (opening channel, { system := withNet c.system net, names })
  | .call name call =>
    match c.names.lookup name with
    | none => (null, c)
    | some id =>
      let (answer, system) := call.run id c.system
      (answer, { c with system })
  | .close name =>
    match c.names.lookup name with
    | none => (null, c)
    | some id => (null, { c with system := withNet c.system (net.closeChannel id) })

def run (net : LocalNet) (steps : List ChannelStep) : List Value :=
  narrate false step (fun c => ([], c)) (·.system.world.net)
    (fun c net => { c with system := withNet c.system net }) { system := bareSystem net none } steps

end Channels

inductive TopologyStep (κ : Type) where
  | services (step : ServiceStep)
  | setNetwork (network : List (Endpoint × κ))
  | replaceNetwork (network : List (Endpoint × κ))
  | setSecurity (on : Bool)
  | setVerify (on : Bool)
  | setMaxNodes (count : Option Nat)
  | setLedger (ledger : Option LedgerId)
  | setBook (book : AddressBook)
  | entry (id : κ)
  | fail (endpoint : Endpoint)
  | succeed (endpoint : Endpoint)
  | health (endpoint : Endpoint)
  | bestHealth (id : κ)
  | select
  | lease (id : κ)
  | next
  | contains (id : κ)
  | call (id : κ) (call : CallStep)
  | advance (span : Span)
  | refresh
  | trigger
  | sleep (span : Span)
  | close

namespace TopologyStep

variable {κ : Type} [DecidableEq κ] [Identity κ]

def leaseAndCall (slot : Slot κ) (id : κ) (call : CallStep) (s : System) : Value × System :=
  let (leased, t, net) := (slot.get s.world).lease id s.world.net
  let s := { s with world := { slot.put t s.world with net } }
  match leased with
  | none => (null, s)
  | some l =>
    match l.channel with
    | .error why => (status why, s)
    | .ok channel => call.run channel s

/-- Triggers a refresh twice in a row, and lets it run until it waits. -/
def triggerTwice (s : System) : Value × System :=
  let (first, w) := s.world.trigger
  let (second, w) := w.trigger
  let s := (s.follow w).settled
  (obj [("fired", list [bool first, bool second]), ("refreshing", bool s.world.refreshing)], s)

def run (slot : Slot κ) (step : TopologyStep κ) (s : System) : Value × System :=
  let t := slot.get s.world
  let net := s.world.net
  let put (t : Topology κ) (net : LocalNet) : System := { s with world := { slot.put t s.world with net } }
  let show' {β : Type} (f : β → Value) (r : Option β × System) : Value × System := (option f r.1, r.2)
  match step with
  | .services step =>
    let (answer, net) := step.run net
    (answer, withNet s net)
  | .setNetwork network => show' change (s.carryOut (slot.setNetwork network))
  | .replaceNetwork network =>
    let (c, retired, t) := t.replaceNetwork network s.world.now
    (obj [("change", change c), ("retired", nat retired.length)], put t net)
  | .setSecurity on => show' bool (s.carryOut (slot.setSecurity on))
  | .setVerify on => show' bool (s.carryOut (slot.setVerify on))
  | .setMaxNodes count => (null, put { t with maxNodes := count } net)
  | .setLedger ledger => (null, put { t with ledger } net)
  | .setBook book =>
    let (consensus, net) := s.world.consensus.applyBook book net
    (null, { s with world := { s.world with consensus, net } })
  | .entry id => (option Report.entry (t.entryOf? id), s)
  | .fail endpoint =>
    let (answer, s) := s.carryOut (slot.fail endpoint)
    (option (option (Report.health s.world.now)) answer, s)
  | .succeed endpoint =>
    let t := t.markSuccess endpoint s.world.now
    (option (Report.health s.world.now) (t.health? endpoint), put t net)
  | .health endpoint => (option (Report.health s.world.now) (t.health? endpoint), s)
  | .bestHealth id => (option (Report.health s.world.now) (t.bestHealth? id), s)
  | .select => (list (t.select.map identity), s)
  | .lease id =>
    let (l, t, net) := t.lease id net
    (option (Report.lease s.world.now) l, put t net)
  | .next =>
    let (l, t, net) := t.leaseNext net
    (option (Report.lease s.world.now) l, put t net)
  | .contains id => (bool (t.contains id), s)
  | .call id c => leaseAndCall slot id c s
  | .advance span => (null, (s.carryOut (Operation.rest span ())).2)
  | .refresh => show' (option (result change)) (s.carryOut fun w => (.refresh { background := false } id, w))
  | .trigger => if s.world.source.isNone then (null, s) else triggerTwice s
  | .sleep span =>
    let s := (s.carryOut (Operation.rest span ())).2.settled
    (if s.world.source.isSome then bool s.world.refreshing else null, s)
  | .close => (null, (s.carryOut slot.close).2)

def runAll (slot : Slot κ) (options : TopologyOptions) (net : LocalNet) (source : Option BookSource) (logs : Bool)
    (steps : List (TopologyStep κ)) : List Value :=
  let s := bareSystem net source
  narrate logs (run slot)
    (fun s => ([("at", span s.world.now), ("state", topology s.world.now (slot.get s.world))], s))
    (·.world.net) withNet { s with world := slot.put (.empty options) s.world } steps

end TopologyStep

inductive ClientStep where
  | services (step : ServiceStep)
  | ping (request : Request String)
  | pingBlocking (request : Request String)
  | pingUnder (policy : RetryPolicy) (request : Request String)
  | submit (t : Transaction)
  /-- A query may have been refused before it came to a subscription. -/
  | subscribe (name : String) (query : Except ClientError TopicQuery) (handlers : Handlers)
  | unsubscribe (name : String)
  | advance (span : Span)
  | setNetwork (network : List (Endpoint × AccountId))
  | setMirrors (mirrors : List String)
  | setSecurity (on : Bool)
  | setVerify (on : Bool)
  | setBook (book : AddressBook)
  | setMaxNodes (count : Option Nat)
  | entry (id : AccountId)
  | fail (endpoint : Endpoint)
  | refresh
  | close

structure Session where
  client : Client
  subscriptions : List (String × SubscriptionId) := []

namespace Session

def ping (nodes : Option (List AccountId)) (accepted : List LedgerStatus) (unencodable : List AccountId) :
    Request String where
  method := "ping"
  nodeIds := nodes
  encode id := if unencodable.contains id then .error (.codec s!"cannot encode for {id}") else .ok id.text
  status := answerStatus
  value response _ := .ok response
  classify s := if accepted.contains s then .success else s.classify

def subscribe (s : Session) (name : String) (query : TopicQuery) (handlers : Handlers) : Value × Session :=
  match s.client.subscribe query handlers with
  | (.error e, client) => (error e, { s with client })
  | (.ok id, client) => (ok null, ⟨client, (name, id) :: s.subscriptions.filter (·.1 != name)⟩)

def step (step : ClientStep) (s : Session) : Value × Session :=
  let c := s.client
  let show' {β : Type} (f : β → Value) (r : Option (Except ClientError β) × Client) : Value × Session :=
    (option (result f) r.1, { s with client := r.2 })
  let quietly (client : Client) : Value × Session := (null, { s with client })
  match step with
  | .services step =>
    let (answer, net) := step.run c.world.net
    (answer, { s with client := c.updateWorld fun w => { w with net } })
  | .ping request => show' (executed true text) (c.execute request)
  | .pingBlocking request => show' (executed true text) (c.executeBlocking .soleWorker request)
  | .pingUnder policy request => show' (executed true text) (c.executeWith policy request)
  | .submit t => show' (executed true submitted) (c.execute t.request)
  | .subscribe _ (.error e) _ => (error e, s)
  | .subscribe name (.ok query) handlers => s.subscribe name query handlers
  | .unsubscribe name =>
    match s.subscriptions.lookup name with
    | none => (null, s)
    | some id => quietly (c.unsubscribe id)
  | .advance span => quietly (c.rest span)
  | .setNetwork network => show' change (c.setNetwork network)
  | .setMirrors mirrors => show' change (c.setMirrors mirrors)
  | .setSecurity on => show' bool (c.setSecurity on)
  | .setVerify on => show' bool (c.setVerify on)
  | .setBook book => quietly (c.setBook book)
  | .setMaxNodes count => quietly (c.setMaxNodes count)
  | .entry id => (option Report.entry (c.world.consensus.entryOf? id), s)
  | .fail endpoint => quietly (c.carryOut (Slot.consensus.fail endpoint)).2
  | .refresh => show' change c.refresh
  | .close => quietly c.close.2

/-- Takes a step and lets everything run that does not wait. -/
def stepAndSettle (what : ClientStep) (s : Session) : Value × Session :=
  let (answer, s) := s.step what
  (answer, { s with client := s.client.settled })

def deliveries (w : World) : List (String × SubscriptionId) → List (String × Value) × World
  | [] => ([], w)
  | (name, id) :: rest =>
    let (items, w) := w.takeDeliveries id
    let (more, w) := deliveries w rest
    ((name, obj [("closed", bool (w.isClosed id)), ("events", list (items.map delivery))]) :: more, w)

def shown (s : Session) : List (String × Value) × Session :=
  let (subscriptions, w) := deliveries s.client.world s.subscriptions
  let c := s.client.updateWorld fun _ => w
  ([("at", span w.now), ("consensus", topology w.now w.consensus), ("mirror", topology w.now w.mirror),
    ("mirrors", list (c.mirrorNames.map text)), ("active", nat c.activeSubscriptions), ("closed", bool c.isClosed),
    ("subs", obj subscriptions)], { s with client := c })

def run (client : Client) (logs : Bool) (steps : List ClientStep) : List Value :=
  narrate logs stepAndSettle shown (·.client.world.net)
    (fun s net => { s with client := s.client.updateWorld fun w => { w with net } }) { client } steps

end Session

end LedgerNet.Rehearsal
