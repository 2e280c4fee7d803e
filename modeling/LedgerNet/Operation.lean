import LedgerNet.Network.Refresh
import LedgerNet.Request.Run

/-!
Operations that a caller waits for, as they run. An operation on a topology changes it at once and then waits for
the channels it retired to close.
-/
namespace LedgerNet

/-- What a client does last: its two topologies close one after the other. -/
structure Teardown where
  channels : Nat
  subscriptions : Nat
  ownsRuntime : Bool
deriving DecidableEq, Repr

/-- An operation as it runs. Each kind says what it answers, given what it waited for. -/
inductive Operation (β : Type) : Type 1 where
  | request {α : Type} (run : RequestRun α) (answer : Except ClientError (Executed α) → β)
  | refresh (run : RefreshRun) (answer : Option (Except ClientError NetworkChange) → β)
  | sleep (ends : Instant) (answer : β)
  | closing (c : Closing) (events : List Event) (answer : β)
  /-- Waits for the consensus channels of a client to close; its mirrors come next. -/
  | closingConsensus (c : Closing) (teardown : Teardown) (answer : β)
  | closingMirror (c : Closing) (teardown : Teardown) (answer : β)
  | calling (ticket : Ticket) (answer : Except Status String → β)
  /-- All elements of a stream, those received so far latest first. -/
  | collecting (pull : Pull) (received : List (Except Status String))
      (answer : Except Status (List (Except Status String)) → β)
  | finished (answer : β)

namespace Operation

variable {β : Type}

def answer? : Operation β → Option β
  | .finished b => some b
  | _ => none

def waiting : Operation β → Waiting
  | .request run _ => if run.result?.isSome then .nothing else run.waiting
  | .refresh run _ => if run.isFinished then .nothing else run.waiting
  | .sleep ends _ => .time ends
  | .closing c _ _ | .closingConsensus c _ _ | .closingMirror c _ _ => .time c.ends
  | .calling ticket _ => .ofOption ticket.arrives
  | .collecting (.element ready _ _) _ _ => .time ready
  | .collecting .ended _ _ => .nothing
  | .collecting .never _ _ => .forever
  | .finished _ => .forever

def step (o : Operation β) (w : World) : Operation β × World :=
  match o with
  | .request run answer =>
    match run.result? with
    | some result => (.finished (answer result), w)
    | none =>
      let (run, w) := run.step w
      (.request run answer, w)
  | .refresh run answer =>
    match run.phase with
    | .finished result => (.finished (answer result), w)
    | _ =>
      let (run, w) := run.step w
      (.refresh run answer, w)
  | .sleep _ answer => (.finished answer, w)
  | .closing c events answer =>
    (.finished answer, events.foldl World.report { w with net := w.net.endClose c })
  | .closingConsensus c teardown answer =>
    let w := { w with net := w.net.endClose c }.report (.topologyClosed teardown.channels)
    let (retired, mirror) := w.mirror.clear
    let (c, net) := w.net.beginClose retired mirror.closeTimeout
    (.closingMirror c { teardown with channels := retired.length } answer, { w with mirror, net })
  | .closingMirror c teardown answer =>
    let w := { w with net := w.net.endClose c }.report (.topologyClosed teardown.channels)
    (.finished answer, w.report (.clientClosed teardown.subscriptions teardown.ownsRuntime))
  | .calling ticket answer => (.finished (answer ticket.answer), w)
  | .collecting pull received answer =>
    match pull with
    | .element _ item stream =>
      let w := { w with net := w.net.sent stream item }
      (.collecting (stream.pull w.now) (item :: received) answer, w)
    | .ended => (.finished (answer (.ok received.reverse)), w)
    | .never => (o, w)
  | .finished _ => (o, w)

/-- Waits for some time, though no longer than the longest rest. -/
def rest (span : Span) (answer : β) (w : World) : Operation β × World :=
  (.sleep (Instant.wake (w.now + min span Span.longestRest)) answer, w)

/-- Begins to close a client: every subscription is cancelled and the consensus nodes are forgotten, whose channels
close first. -/
def teardown (ownsRuntime : Bool) (w : World) : Operation Unit × World :=
  let subscriptions := w.live.length
  let w := { w with closed := true }.unsubscribeAll
  let (retired, consensus) := w.consensus.clear
  let (c, net) := w.net.beginClose retired consensus.closeTimeout
  (.closingConsensus c ⟨retired.length, subscriptions, ownsRuntime⟩ (), { w with consensus, net })

def call (channel : ChannelId) (method payload : String) (w : World) :
    Operation (Except Status String) × World :=
  let (ticket, net) := w.net.call channel method payload
  (.calling ticket id, { w with net })

def stream (channel : ChannelId) (method payload : String) (w : World) :
    Operation (Except Status (List (Except Status String))) × World :=
  let (ticket, net) := w.net.openStream channel method payload
  let w := { w with net }
  match ticket with
  | none => (.collecting .never [] id, w)
  | some (.error status) => (.finished (.error status), w)
  | some (.ok s) => (.collecting (s.pull w.now) [] id, w)

end Operation

/-- Where in the world a topology stands. -/
structure Slot (κ : Type) where
  get : World → Topology κ
  put : Topology κ → World → World

def Slot.consensus : Slot AccountId := ⟨World.consensus, fun t w => { w with consensus := t }⟩

def Slot.mirror : Slot String := ⟨World.mirror, fun t w => { w with mirror := t }⟩

namespace Slot

variable {β κ : Type} (slot : Slot κ)

/-- Puts a topology in its place, closes the channels it retired, and answers when they are closed. -/
def retire (t : Topology κ) (retired : List ChannelId) (events : List Event) (answer : β) (w : World) :
    Operation β × World :=
  let (c, net) := w.net.beginClose retired t.closeTimeout
  (.closing c events answer, { slot.put t w with net })

variable [DecidableEq κ] [Identity κ]

def setNetwork (network : List (Endpoint × κ)) (w : World) : Operation NetworkChange × World :=
  let (change, retired, t) := (slot.get w).replaceNetwork network w.now
  let events := if change.isNoop then [] else [.networkUpdated change.added change.removed change.unchanged]
  slot.retire t retired events change w

def setSecurity (secure : Bool) (w : World) : Operation Bool × World :=
  match (slot.get w).switchSecurity secure w.now with
  | none => (.finished false, w)
  | some (retired, t) => slot.retire t retired [.securityChanged secure] true w

def setVerify (verify : Bool) (w : World) : Operation Bool × World :=
  match (slot.get w).switchVerify verify w.now with
  | none => (.finished false, w)
  | some (retired, t) => slot.retire t retired [] true w

def fail (endpoint : Endpoint) (w : World) : Operation (Option NodeHealth) × World :=
  match (slot.get w).markFailure endpoint w.net with
  | (none, t, net) => (.finished none, { slot.put t w with net })
  | (some marked, t, net) =>
    slot.retire t marked.retired
      [.nodeUnhealthy endpoint marked.health.backoff.millis marked.health.failures]
      (some marked.health) { w with net }

def close (w : World) : Operation Unit × World :=
  let (retired, t) := (slot.get w).clear
  slot.retire t retired [.topologyClosed retired.length] () w

end Slot

end LedgerNet
