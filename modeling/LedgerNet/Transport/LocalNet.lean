import LedgerNet.Event
import LedgerNet.Rehearsal.Script
import LedgerNet.Simulation.Services
import LedgerNet.Transport.Channel

/-!
The network inside one process: services registered under endpoints and hosts, the channels opened to them, and
the clock by which they answer. Whatever is sent to a service is recorded, what services see that keep a journal is
kept in one, and everything that the library reports in a log.

A channel finds its service anew for each call, by its endpoint first and by its bare host next, so that one
registration can serve a node on both its ports.
-/
namespace LedgerNet

open Text

inductive Service where
  | answering (s : Rehearsal.Answering)
  | streaming (s : Rehearsal.Streaming)
  | consensusNode (s : Simulation.ConsensusNode)
  | mirror (s : Simulation.Mirror)

def Service.certificate? : Service → Option Bytes
  | .answering s => s.certificate
  | .streaming s => s.certificate
  | .consensusNode _ | .mirror _ => none

structure Registration where
  key : String
  name : String
  service : Service

/-- What a service or the transport saw. -/
inductive Sighting where
  | opened (endpoint : Endpoint) (options : ChannelOptions) (refused : Bool)
  | called (method payload : String)
  | streamed (method payload : String)
  | fetched

structure JournalEntry where
  time : Instant
  who : String
  what : Sighting

/-- Something sent to a service, by the key under which the service is registered. -/
structure Arrival where
  key : String
  method : String
  payload : String
deriving DecidableEq, Repr

structure LocalNet where
  now : Instant := 0
  services : List Registration := []
  channels : List Channel := []
  refused : List (Endpoint × Status) := []
  /-- Endpoints whose channels never finish closing. -/
  slowToClose : List Endpoint := []
  /-- How long the channels to an endpoint take to close, where they do not close at once. -/
  closeTimes : List (Endpoint × Span) := []
  /-- Everything that was sent to a service, whether or not it keeps a journal, latest first. -/
  arrivals : List Arrival := []
  journal : List JournalEntry := []
  events : List Event := []
  metrics : Simulation.Metrics := {}

namespace LocalNet

def report (net : LocalNet) (event : Event) : LocalNet := { net with events := event :: net.events }

def note (net : LocalNet) (who : String) (what : Sighting) : LocalNet :=
  { net with journal := ⟨net.now, who, what⟩ :: net.journal }

/-- Serves a key from now on, in the place of the service that was there. -/
def register (net : LocalNet) (key name : String) (service : Service) : LocalNet :=
  { net with services := ⟨key, name, service⟩ :: net.services.filter (·.key != key) }

def deregister (net : LocalNet) (key : String) : Bool × LocalNet :=
  (net.services.any (·.key == key), { net with services := net.services.filter (·.key != key) })

def allowOpen (net : LocalNet) (endpoint : Endpoint) : LocalNet :=
  { net with refused := net.refused.filter (·.1 != endpoint) }

/-- What was seen, by time and then by who saw it, and a network that has forgotten it. -/
def takeJournal (net : LocalNet) : List JournalEntry × LocalNet :=
  let order (a b : JournalEntry) : Bool :=
    ((compare a.time b.time).then (compareOfLessAndEq a.who b.who)) != .gt
  (net.journal.reverse.mergeSort order, { net with journal := [] })

def takeEvents (net : LocalNet) : List Event × LocalNet := (net.events.reverse, { net with events := [] })

def openedCount (net : LocalNet) : Nat := net.channels.length

def closedCount (net : LocalNet) : Nat := (net.channels.filter (·.closed)).length

def openChannel (net : LocalNet) (endpoint : Endpoint) (options : ChannelOptions) :
    Except Status ChannelId × LocalNet :=
  match net.refused.lookup endpoint with
  | some status => (.error status, net.note endpoint.text (.opened endpoint options true))
  | none =>
    let net := (net.note endpoint.text (.opened endpoint options false)).report
      (.openingChannel endpoint options.tls)
    (.ok net.channels.length, { net with channels := net.channels ++ [{ endpoint, options }] })

/-- The registration that serves a channel now. -/
def serving? (net : LocalNet) (endpoint : Endpoint) : Option Registration :=
  (net.services.find? (·.key == endpoint.text)).or
    (endpoint.host?.bind fun host => net.services.find? (·.key == host))

/-- The service behind a channel, if the channel is open, the service is there and its certificate is trusted. -/
def reach (net : LocalNet) (id : ChannelId) : Except Status Registration :=
  match net.channels[id]? with
  | none => .error (.unavailable "")
  | some channel =>
    let key := channel.endpoint.text
    if channel.closed then .error (.unavailable s!"channel to {key} is closed")
    else match net.serving? channel.endpoint with
      | none => .error (.unavailable s!"no service listening on {key}")
      | some registration =>
        match registration.service.certificate? with
        | none => .ok registration
        | some certificate =>
          if channel.options.tls && !channel.options.accepts certificate then
            .error (.unavailable s!"certificate presented by {key} does not match the address book")
          else .ok registration

def putService (net : LocalNet) (key : String) (service : Service) : LocalNet :=
  { net with services := net.services.map fun r => if r.key == key then { r with service } else r }

def arrive (net : LocalNet) (registration : Registration) (method payload : String) : LocalNet :=
  { net with arrivals := ⟨registration.key, method, payload⟩ :: net.arrivals }

def call (net : LocalNet) (id : ChannelId) (method payload : String) : Ticket × LocalNet :=
  match net.reach id with
  | .error status => (.now net.now (.error status), net)
  | .ok registration =>
    let net := net.arrive registration method payload
    match registration.service with
    | .answering s =>
      let net := net.note registration.name (.called method payload)
      let answered := s.answer payload net.now
      (answered.1, net.putService registration.key (.answering answered.2))
    | .streaming _ | .mirror _ =>
      (.now net.now (.error (.unimplemented s!"{method} is streaming only")), net)
    | .consensusNode node =>
      let answered := node.answer payload net.now net.metrics
      (answered.1, { net with metrics := answered.2.2 }.putService registration.key (.consensusNode answered.2.1))

def openStream (net : LocalNet) (id : ChannelId) (method payload : String) : StreamTicket × LocalNet :=
  match net.reach id with
  | .error status => (some (.error status), net)
  | .ok registration =>
    let net := net.arrive registration method payload
    match registration.service with
    | .answering _ | .consensusNode _ =>
      (some (.error (.unimplemented s!"{method} is not streaming")), net)
    | .streaming s =>
      match Wire.decodeQuery (Symbol.ofString payload) with
      | .error e => (some (.error ⟨.invalidArgument, e.message⟩), net)
      | .ok query =>
        let net := net.note registration.name (.streamed method payload)
        let opened := s.openStream query
        (opened.1, net.putService registration.key (.streaming opened.2))
    | .mirror m =>
      let opened := m.openStream payload
      (some opened.1, net.putService registration.key (.mirror opened.2))

def sent (net : LocalNet) (stream : Stream) (item : Except Status String) : LocalNet :=
  if stream.metered then { net with metrics := net.metrics.sent item } else net

def closesSlowly (net : LocalNet) (id : ChannelId) : Bool :=
  net.channels[id]?.any fun channel => net.slowToClose.contains channel.endpoint

/-- Tells a channel to close, which it then is, unless it never finishes closing. -/
def closeChannel (net : LocalNet) (id : ChannelId) : LocalNet :=
  { net with channels := net.channels.modify id fun channel =>
      { channel with closed := channel.closed || !net.closesSlowly id, closes := channel.closes + 1 } }

end LocalNet

/-- A wait for channels to close: until when, and how many of them are still closing by then. -/
structure Closing where
  ends : Instant
  slow : Nat
  timeout : Span
deriving DecidableEq, Repr

namespace LocalNet

/-- How long a channel takes to close; none if it never finishes. -/
def closeTime? (net : LocalNet) (id : ChannelId) : Option Span :=
  if net.closesSlowly id then none
  else some ((net.channels[id]?.bind fun channel => net.closeTimes.lookup channel.endpoint).getD 0)

/-- When a channel is no longer waited for: it is closed, or the timeout has passed. -/
def closeEnd (net : LocalNet) (timeout : Span) (id : ChannelId) : Instant :=
  match net.closeTime? id with
  | some 0 => net.now
  | some span => Instant.wake (net.now + min span timeout)
  | none => Instant.wake (net.now + timeout)

/-- Whether a channel is still closing when it is no longer waited for. -/
def outlasts (net : LocalNet) (timeout : Span) (id : ChannelId) : Bool :=
  (net.closeTime? id).all fun span => Instant.wake (net.now + timeout) < Instant.wake (net.now + span)

/-- Begins to close channels, all at once and each within a timeout. -/
def beginClose (net : LocalNet) (ids : List ChannelId) (timeout : Span) : Closing × LocalNet :=
  (⟨(ids.map (net.closeEnd timeout)).foldl max net.now, (ids.filter (net.outlasts timeout)).length, timeout⟩,
    ids.foldl closeChannel net)

def endClose (net : LocalNet) (closing : Closing) : LocalNet :=
  (List.range closing.slow).foldl (fun net _ => net.report (.closeTimedOut closing.timeout.millis)) net

end LocalNet

end LedgerNet
