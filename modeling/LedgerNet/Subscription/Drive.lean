import LedgerNet.Subscription.ChunkBuffer
import LedgerNet.Wire.Mirror
import LedgerNet.World

/-!
A subscription as it runs: it streams a topic from the next eligible mirror, puts chunked messages together, and
reconnects after failures that are worth it, going on right after the last item received.

Each item counts towards the query's limit, chunk or not. The budget of reconnects covers the whole subscription.
A mirror that delivers is marked healthy, one whose stream fails is benched. Once the subscription is closed no
callback starts; the cancellation is seen at the next wait. When the last item was stamped at the end of time there
is no instant to go on from, and the drive breaks down.
-/
namespace LedgerNet

open Text

def subscribeMethod : String := "/ledger.Mirror/subscribeTopic"

structure MirrorCodec where
  encodeQuery : TopicQuery → Except ClientError String
  decodeResponse : String → Except ClientError TopicResponse

def MirrorCodec.json : MirrorCodec := ⟨fun q => .ok (Wire.encodeQuery q), Wire.decodeResponseText⟩

structure Handlers where
  /-- Without it, a failure is reported as an event. -/
  hearsErrors : Bool := true
  hearsCompletion : Bool := true
  /-- Replaces the rule by which failures are worth a reconnect. -/
  retryWhen : Option (Status → Bool) := none
  /-- Whether the callback for the n-th message unsubscribes. -/
  stopsAt : Nat → Bool := fun _ => false

def Handlers.accepts (h : Handlers) (status : Status) : Bool :=
  match h.retryWhen with
  | some rule => rule status
  | none => status.isStreamRetryable

inductive StreamEnd where
  | cancelled
  | completed
  | failed (status : Status)
  | fatal (error : SubscriptionError)

inductive DrivePhase where
  | connecting
  /-- A stream was asked for and never comes, or has just come. -/
  | opening (mirror : Endpoint) (ticket : StreamTicket)
  | receiving (mirror : Endpoint) (pull : Pull)
  /-- The channel of a mirror that was removed is closing. -/
  | benching (mirror : Endpoint) (health : NodeHealth) (closing : Closing) (status : Status)
  | pausing (ends : Instant)
  | finished

structure Drive where
  id : SubscriptionId
  codec : MirrorCodec
  handlers : Handlers
  query : TopicQuery
  chunks : ChunkBuffer := {}
  received : Nat := 0
  /-- Items received before the stream at hand. -/
  receivedBefore : Nat := 0
  last : Option Timestamp := none
  attempt : Nat := 0
  delivered : Nat := 0
  phase : DrivePhase := .connecting

namespace Drive

def topic (d : Drive) : String := d.query.topic.text

def stop (d : Drive) (w : World) : Drive × World :=
  ({ d with phase := .finished }, { w with live := w.live.filter (· != d.id) })

/-- Breaks down: nothing more happens, the subscriber is not told, and the subscription stays live. -/
def breakDown (d : Drive) (w : World) : Drive × World := ({ d with phase := .finished }, w)

/-- Whether there is an instant right after the last item. -/
def hasNextInstant (d : Drive) : Bool := d.last.all (·.reaches 1)

def complete (d : Drive) (w : World) : Drive × World :=
  if w.isClosed d.id then d.stop w
  else
    let w := (w.updateSubscription d.id fun s => { s with closed := true }).report
      (.subscriptionComplete d.topic)
    d.stop (if d.handlers.hearsCompletion then w.deliver d.id .complete else w)

def fail (d : Drive) (error : SubscriptionError) (w : World) : Drive × World :=
  if w.isClosed d.id then d.stop w
  else
    let w := w.updateSubscription d.id fun s => { s with closed := true }
    d.stop (if d.handlers.hearsErrors then w.deliver d.id (.error error)
      else w.report (.subscriptionFailed d.topic error))

def retry (d : Drive) (status : Status) (w : World) : Drive × World :=
  if !d.handlers.accepts status then d.fail (.terminal status) w
  else if d.query.attemptBudget ≤ d.attempt then d.fail (.retriesExhausted status d.attempt) w
  else
    let delay := Span.streamBackoff d.attempt d.query.backoffCeiling
    let w := w.report (.streamFailed d.topic d.attempt delay.millis status)
    ({ d with phase := .pausing (Instant.wake (w.now + delay)) }, w)

/-- Judges a mirror by its stream, and acts on how the stream ended. -/
def endStream (d : Drive) (mirror : Endpoint) (how : StreamEnd) (w : World) : Drive × World :=
  let w :=
    if d.receivedBefore < d.received then { w with mirror := w.mirror.markSuccess mirror w.now } else w
  match how with
  | .cancelled => d.stop (w.report (.subscriptionCancelled d.topic))
  | .completed => d.complete w
  | .fatal error => d.fail error w
  | .failed status =>
    match w.mirror.markFailure mirror w.net with
    | (none, topology, net) => d.retry status { w with mirror := topology, net }
    | (some marked, topology, net) =>
      let (closing, net) := net.beginClose marked.retired topology.closeTimeout
      ({ d with phase := .benching mirror marked.health closing status }, { w with mirror := topology, net })

def pull (d : Drive) (mirror : Endpoint) (stream : Stream) (w : World) : Drive × World :=
  ({ d with phase := .receiving mirror (stream.pull w.now) }, w)

def connect (d : Drive) (w : World) : Drive × World :=
  match d.query.resume d.last d.received with
  | none => d.complete w
  | some query =>
    if !d.hasNextInstant then d.breakDown w
    else match w.mirror.leaseNext w.net with
      | (none, mirror, net) => d.fail .noMirrorNodes { w with mirror, net }
      | (some lease, mirror, net) =>
        let d := { d with receivedBefore := d.received }
        let w := { w with mirror, net }
        match lease.channel with
        | .error status => d.endStream lease.endpoint (.failed status) w
        | .ok channel =>
          match d.codec.encodeQuery query with
          | .error e => d.endStream lease.endpoint (.fatal (.codec e.message)) w
          | .ok payload =>
            let w := w.report
              (.openingStream d.topic lease.endpoint query.limit.toNat (query.start.map Timestamp.text))
            if w.isCancelled d.id then d.endStream lease.endpoint .cancelled w
            else
              let (ticket, net) := w.net.openStream channel subscribeMethod payload
              ({ d with phase := .opening lease.endpoint ticket }, { w with net })

/-- Hands a message on, unless the subscription is closed, and says whether it did. -/
def handOn (d : Drive) (message : TopicMessage) (w : World) : Bool × Drive × World :=
  if w.isClosed d.id then (false, d, w)
  else
    let w := w.deliver d.id (.next message)
    let d := { d with delivered := d.delivered + 1 }
    (true, d, if d.handlers.stopsAt d.delivered then w.unsubscribe d.id else w)

def limitMet (d : Drive) : Bool := 0 < d.query.limit.toNat && d.query.limit.toNat ≤ d.received

def reportChunk (d : Drive) (r : TopicResponse) (w : World) : World :=
  match r.chunk with
  | none => w
  | some info =>
    if info.total ≤ 1 then w
    else w.report (.chunkBuffered info.transactionId ((d.chunks.parts info.transactionId).length + 1)
      info.total.toNat)

def accept (d : Drive) (mirror : Endpoint) (r : TopicResponse) (stream : Stream) (w : World) : Drive × World :=
  let w := d.reportChunk r w
  let (chunks, message) := d.chunks.accept r
  let d := { d with chunks, received := d.received + 1, last := some r.timestamp }
  let (going, d, w) := match message with
    | none => (true, d, w)
    | some message => d.handOn message w
  if !going then d.endStream mirror .cancelled w
  else if d.limitMet then d.endStream mirror .completed w
  else d.pull mirror stream w

def receive (d : Drive) (mirror : Endpoint) (item : Except Status String) (stream : Stream) (w : World) :
    Drive × World :=
  let w := { w with net := w.net.sent stream item }
  match item with
  | .error status => d.endStream mirror (.failed status) w
  | .ok payload =>
    match d.codec.decodeResponse payload with
    | .error e => d.endStream mirror (.fatal (.codec e.message)) w
    | .ok r => d.accept mirror r stream w

/-- What the drive waits for, cancellation aside. -/
def waiting (d : Drive) : Waiting :=
  match d.phase with
  | .connecting => .nothing
  | .opening _ ticket => if ticket.isSome then .nothing else .forever
  | .receiving _ (.element ready _ _) => .time ready
  | .receiving _ .ended => .nothing
  | .receiving _ .never => .forever
  | .benching _ _ closing _ => .time closing.ends
  | .pausing ends => .time ends
  | .finished => .forever

/-- Whether cancellation ends the wait. -/
def heedsCancel (d : Drive) : Bool :=
  match d.phase with
  | .opening .. | .receiving .. | .pausing _ => true
  | _ => false

def step (d : Drive) (w : World) : Drive × World :=
  let cancelled := w.isCancelled d.id
  match d.phase with
  | .connecting => d.connect w
  | .opening mirror ticket =>
    if cancelled then d.endStream mirror .cancelled w
    else match ticket with
      | none => (d, w)
      | some (.error status) => d.endStream mirror (.failed status) w
      | some (.ok stream) => d.pull mirror stream w
  | .receiving mirror pull =>
    if cancelled then d.endStream mirror .cancelled w
    else match pull with
      | .element _ item stream => d.receive mirror item stream w
      | .ended => d.endStream mirror .completed w
      | .never => (d, w)
  | .benching mirror health closing status =>
    let w := { w with net := w.net.endClose closing }
    d.retry status (w.report (.nodeUnhealthy mirror health.backoff.millis health.failures))
  | .pausing _ =>
    if cancelled then d.stop (w.report (.cancelledDuringBackoff d.topic))
    else ({ d with attempt := d.attempt + 1, phase := .connecting }, w)
  | .finished => (d, w)

def isFinished (d : Drive) : Bool :=
  match d.phase with
  | .finished => true
  | _ => false

end Drive

end LedgerNet
