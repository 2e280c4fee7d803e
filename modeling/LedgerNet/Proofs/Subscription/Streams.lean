import Mathlib
import LedgerNet.Subscription.Drive

/-!
What the steps of a drive do to its subscription while that is open: what it has heard, and how the drive goes on
after an item, after a failure and at the end.
-/
namespace LedgerNet

/-- A subscription is open, and this is what it has heard. -/
def World.Hears (w : World) (id : SubscriptionId) (heard : List Delivery) : Prop :=
  ∃ deliveries, w.subscriptions[id]? = some ⟨false, false, deliveries⟩ ∧ deliveries.reverse.map (·.2) = heard

/-- A subscription is closed, and this is what it has heard. -/
def World.HasHeard (w : World) (id : SubscriptionId) (heard : List Delivery) : Prop :=
  ∃ deliveries, w.subscriptions[id]? = some ⟨true, false, deliveries⟩ ∧ deliveries.reverse.map (·.2) = heard

namespace World

variable {w w' : World} {id : SubscriptionId} {heard : List Delivery}

theorem Hears.congr (h : w.Hears id heard) (hs : w'.subscriptions[id]? = w.subscriptions[id]?) :
    w'.Hears id heard := by
  obtain ⟨deliveries, hd, hh⟩ := h
  exact ⟨deliveries, hs.trans hd, hh⟩

theorem HasHeard.congr (h : w.HasHeard id heard) (hs : w'.subscriptions[id]? = w.subscriptions[id]?) :
    w'.HasHeard id heard := by
  obtain ⟨deliveries, hd, hh⟩ := h
  exact ⟨deliveries, hs.trans hd, hh⟩

theorem Hears.not_closed (h : w.Hears id heard) : w.isClosed id = false := by
  obtain ⟨deliveries, hd, _⟩ := h
  simp [isClosed, hd]

theorem Hears.not_cancelled (h : w.Hears id heard) : w.isCancelled id = false := by
  obtain ⟨deliveries, hd, _⟩ := h
  simp [isCancelled, hd]

theorem Hears.deliver (h : w.Hears id heard) (delivery : Delivery) :
    (w.deliver id delivery).Hears id (heard ++ [delivery]) := by
  obtain ⟨deliveries, hd, hh⟩ := h
  refine ⟨(w.now, delivery) :: deliveries, ?_, ?_⟩
  · simp [World.deliver, updateSubscription, hd]
  · simp [← hh]

theorem Hears.close (h : w.Hears id heard) :
    (w.updateSubscription id fun s => { s with closed := true }).HasHeard id heard := by
  obtain ⟨deliveries, hd, hh⟩ := h
  exact ⟨deliveries, by simp [updateSubscription, hd], hh⟩

theorem HasHeard.deliver (h : w.HasHeard id heard) (delivery : Delivery) :
    (w.deliver id delivery).HasHeard id (heard ++ [delivery]) := by
  obtain ⟨deliveries, hd, hh⟩ := h
  refine ⟨(w.now, delivery) :: deliveries, ?_, ?_⟩
  · simp [World.deliver, updateSubscription, hd]
  · simp [← hh]

end World

namespace ChunkBuffer

theorem acceptAll_append_all (b : ChunkBuffer) (items more : List TopicResponse) :
    b.acceptAll (items ++ more) = (((b.acceptAll items).1.acceptAll more).1,
      (b.acceptAll items).2 ++ ((b.acceptAll items).1.acceptAll more).2) := by
  induction items generalizing b with
  | nil => rfl
  | cons s rest ih => simp [acceptAll, ih]

theorem acceptAll_append (b : ChunkBuffer) (items : List TopicResponse) (r : TopicResponse) :
    b.acceptAll (items ++ [r]) = (((b.acceptAll items).1.accept r).1,
      (b.acceptAll items).2 ++ ((b.acceptAll items).1.accept r).2.toList) := by
  rw [acceptAll_append_all]
  simp [acceptAll]

/-- The messages of one unbroken stream. -/
def messages (items : List TopicResponse) : List TopicMessage := ((⟨[]⟩ : ChunkBuffer).acceptAll items).2

end ChunkBuffer

namespace Drive

/-- What a drive has received is what it had received, and it is on its way to the same end. -/
structure Keeps (d d' : Drive) : Prop where
  id : d'.id = d.id
  codec : d'.codec = d.codec
  handlers : d'.handlers = d.handlers
  query : d'.query = d.query
  chunks : d'.chunks = d.chunks
  received : d'.received = d.received
  last : d'.last = d.last
  attempt : d'.attempt = d.attempt

theorem Keeps.refl (d : Drive) : Keeps d d := ⟨rfl, rfl, rfl, rfl, rfl, rfl, rfl, rfl⟩

theorem Keeps.trans {a b c : Drive} (hab : Keeps a b) (hbc : Keeps b c) : Keeps a c :=
  ⟨hbc.id.trans hab.id, hbc.codec.trans hab.codec, hbc.handlers.trans hab.handlers, hbc.query.trans hab.query,
    hbc.chunks.trans hab.chunks, hbc.received.trans hab.received, hbc.last.trans hab.last,
    hbc.attempt.trans hab.attempt⟩

/-- Whether a drive pauses after a failure that is worth a reconnect. -/
def IsPausing (d : Drive) : Prop :=
  (∃ ends, d.phase = .pausing ends) ∨
    ∃ mirror health closing status, d.phase = .benching mirror health closing status ∧
      d.handlers.accepts status = true

/-- A step from which a drive goes on as it was, and which no subscriber notices. -/
structure Quiet (d : Drive) (w : World) (after : Drive × World) : Prop where
  keeps : Keeps d after.1
  subscriptions : after.2.subscriptions = w.subscriptions

/-- A failure that is worth a reconnect, when there is a reconnect left. -/
theorem retry_accepted {d : Drive} {status : Status} (ha : d.handlers.accepts status = true)
    (hb : d.attempt < d.query.attemptBudget) (w : World) :
    Quiet d w (d.retry status w) ∧ ∃ ends, (d.retry status w).1.phase = .pausing ends := by
  have hlt : ¬ d.query.attemptBudget ≤ d.attempt := Nat.not_le.mpr hb
  simp only [retry, ha, Bool.not_true, Bool.false_eq_true, if_false, hlt]
  exact ⟨⟨⟨rfl, rfl, rfl, rfl, rfl, rfl, rfl, rfl⟩, rfl⟩, _, rfl⟩

/-- The end of a stream, once its mirror was judged by it. -/
theorem endStream_eq (d : Drive) (mirror : Endpoint) (how : StreamEnd) (w : World) :
    ∃ v : World, v.net = w.net ∧ v.subscriptions = w.subscriptions ∧ d.endStream mirror how w =
      match how with
      | .cancelled => d.stop (v.report (.subscriptionCancelled d.topic))
      | .completed => d.complete v
      | .fatal error => d.fail error v
      | .failed status =>
        match v.mirror.markFailure mirror v.net with
        | (none, topology, net) => d.retry status { v with mirror := topology, net }
        | (some marked, topology, net) =>
          let (closing, net) := net.beginClose marked.retired topology.closeTimeout
          ({ d with phase := .benching mirror marked.health closing status }, { v with mirror := topology, net }) := by
  refine ⟨if d.receivedBefore < d.received then
    { w with mirror := w.mirror.markSuccess mirror w.now } else w, ?_, ?_, rfl⟩
  all_goals split <;> rfl

theorem endStream_failed {d : Drive} {status : Status} (ha : d.handlers.accepts status = true)
    (hb : d.attempt < d.query.attemptBudget) (mirror : Endpoint) (w : World) :
    Quiet d w (d.endStream mirror (.failed status) w) ∧ (d.endStream mirror (.failed status) w).1.IsPausing := by
  obtain ⟨v, -, hjudged, heq⟩ := d.endStream_eq mirror (.failed status) w
  rw [heq]
  dsimp only
  split
  · rename_i topology net _
    obtain ⟨⟨hk, hs⟩, hp⟩ := retry_accepted ha hb { v with mirror := topology, net }
    exact ⟨⟨hk, hs.trans hjudged⟩, .inl hp⟩
  · exact ⟨⟨⟨rfl, rfl, rfl, rfl, rfl, rfl, rfl, rfl⟩, hjudged⟩, .inr ⟨_, _, _, _, rfl, ha⟩⟩

/-- What is heard last of a subscription that ends well. -/
def farewell (d : Drive) : List Delivery := if d.handlers.hearsCompletion then [.complete] else []

theorem complete_open {d : Drive} {w : World} {heard : List Delivery} (h : w.Hears d.id heard) :
    (d.complete w).1.phase = .finished ∧ (d.complete w).2.HasHeard d.id (heard ++ d.farewell) := by
  have hclosed := h.close
  simp only [complete, h.not_closed, Bool.false_eq_true, if_false]
  refine ⟨rfl, ?_⟩
  unfold farewell
  split
  · exact (hclosed.deliver .complete).congr rfl
  · rw [List.append_nil]
    exact hclosed.congr rfl

theorem endStream_completed {d : Drive} {w : World} {heard : List Delivery} (h : w.Hears d.id heard)
    (mirror : Endpoint) : (d.endStream mirror .completed w).1.phase = .finished ∧
      (d.endStream mirror .completed w).2.HasHeard d.id (heard ++ d.farewell) := by
  obtain ⟨v, -, hs, heq⟩ := d.endStream_eq mirror .completed w
  rw [heq]
  exact complete_open (h.congr (congrArg (·[d.id]?) hs))

/-- An item that is taken is received, goes into the buffer, and what comes out is heard. -/
theorem accept_open {d : Drive} {w : World} {heard : List Delivery} (h : w.Hears d.id heard)
    (hgoing : ∀ n, d.handlers.stopsAt n = false) (mirror : Endpoint) (r : TopicResponse) (stream : Stream) :
    ∃ d' w', Keeps { d with chunks := (d.chunks.accept r).1, received := d.received + 1, last := some r.timestamp } d' ∧
      w'.Hears d.id (heard ++ (d.chunks.accept r).2.toList.map .next) ∧
      d.accept mirror r stream w =
        if d'.limitMet then d'.endStream mirror .completed w' else d'.pull mirror stream w' := by
  have hreported : (d.reportChunk r w).Hears d.id heard := by
    refine h.congr ?_
    unfold reportChunk
    split
    · rfl
    · split <;> rfl
  unfold accept
  dsimp only
  generalize d.reportChunk r w = v at hreported
  cases hm : (d.chunks.accept r).2 with
  | none =>
    refine ⟨_, v, .refl _, ?_, by simp⟩
    simpa using hreported
  | some message =>
    have hclosed : v.isClosed d.id = false := hreported.not_closed
    have hstops : d.handlers.stopsAt (d.delivered + 1) = false := hgoing _
    simp only [handOn, hclosed, hstops, Bool.false_eq_true, if_false, Bool.not_true]
    exact ⟨{ d with
        chunks := (d.chunks.accept r).1, received := d.received + 1, last := some r.timestamp
        delivered := d.delivered + 1 },
      _, ⟨rfl, rfl, rfl, rfl, rfl, rfl, rfl, rfl⟩, hreported.deliver (.next message), rfl⟩

/-- A drive that gets no channel to the mirror whose turn it is. -/
theorem connect_unreachable {d : Drive} {w : World} {next : TopicQuery} {lease : Lease String}
    {mirror : Topology String} {net : LocalNet} {status : Status}
    (hresume : d.query.resume d.last d.received = some next) (hnext : d.hasNextInstant = true)
    (turn : w.mirror.leaseNext w.net = (some lease, mirror, net)) (channel : lease.channel = .error status) :
    d.connect w =
      { d with receivedBefore := d.received }.endStream lease.endpoint (.failed status) { w with mirror, net } := by
  simp only [connect, hresume, hnext, turn, channel, Bool.not_true, Bool.false_eq_true, if_false]

/-- A drive that asks the mirror whose turn it is for a stream. -/
theorem connect_reached {d : Drive} {w : World} {next : TopicQuery} {lease : Lease String}
    {mirror : Topology String} {net : LocalNet} {id : ChannelId} {payload : String}
    (hresume : d.query.resume d.last d.received = some next) (hnext : d.hasNextInstant = true)
    (turn : w.mirror.leaseNext w.net = (some lease, mirror, net)) (channel : lease.channel = .ok id)
    (hpayload : d.codec.encodeQuery next = .ok payload) (hc : w.isCancelled d.id = false) :
    ∃ event, d.connect w =
      ({ d with
          receivedBefore := d.received
          phase := .opening lease.endpoint ((net.report event).openStream id subscribeMethod payload).1 },
        { w with mirror, net := ((net.report event).openStream id subscribeMethod payload).2 }) := by
  refine ⟨.openingStream d.topic lease.endpoint next.limit.toNat (next.start.map Timestamp.text), ?_⟩
  have hgoes (event : Event) : (({ w with mirror, net }).report event).isCancelled d.id = false := hc
  simp only [connect, hresume, hnext, turn, channel, hpayload, hgoes, Bool.not_true, Bool.false_eq_true, if_false]
  rfl

end Drive

end LedgerNet
