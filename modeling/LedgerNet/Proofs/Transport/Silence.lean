import LedgerNet.Node.Basic

/-!
What leaves the services of a network alone, and what leaves the whole transport alone. Channels open and close and
reports are written without any service being reached; only a call or a request for a stream reaches one.
-/
namespace LedgerNet

/-- Whether a sighting is of something sent to a service. -/
def Sighting.isTraffic : Sighting → Bool
  | .called .. | .streamed .. => true
  | .opened .. | .fetched => false

/-- Whether a sighting is of the transport: of a channel, or of something sent on one. -/
def Sighting.isTransport : Sighting → Bool
  | .fetched => false
  | _ => true

namespace LocalNet

/-- What was sent to services that keep a journal. -/
def traffic (net : LocalNet) : List JournalEntry := net.journal.filter (·.what.isTraffic)

/-- Nothing was sent to a service between two states of a network, and no time has passed. -/
structure Silent (net net' : LocalNet) : Prop where
  now : net'.now = net.now
  arrivals : net'.arrivals = net.arrivals
  services : net'.services = net.services
  metrics : net'.metrics = net.metrics
  traffic : net'.traffic = net.traffic

theorem Silent.refl (net : LocalNet) : Silent net net := ⟨rfl, rfl, rfl, rfl, rfl⟩

theorem Silent.trans {a b c : LocalNet} (hab : Silent a b) (hbc : Silent b c) : Silent a c :=
  ⟨hbc.now.trans hab.now, hbc.arrivals.trans hab.arrivals, hbc.services.trans hab.services,
    hbc.metrics.trans hab.metrics, hbc.traffic.trans hab.traffic⟩

theorem silent_report (net : LocalNet) (event : Event) : Silent net (net.report event) := ⟨rfl, rfl, rfl, rfl, rfl⟩

theorem silent_note (net : LocalNet) (who : String) {what : Sighting} (h : what.isTraffic = false) :
    Silent net (net.note who what) :=
  ⟨rfl, rfl, rfl, rfl, by simp [traffic, note, h]⟩

theorem silent_open (net : LocalNet) (endpoint : Endpoint) (options : ChannelOptions) :
    Silent net (net.openChannel endpoint options).2 := by
  unfold openChannel
  split
  · exact silent_note net _ rfl
  · have hn : Silent net (net.note endpoint.text (.opened endpoint options false)) := silent_note net _ rfl
    exact ⟨hn.now, hn.arrivals, hn.services, hn.metrics, hn.traffic⟩

theorem silent_closeChannel (net : LocalNet) (id : ChannelId) : Silent net (net.closeChannel id) :=
  ⟨rfl, rfl, rfl, rfl, rfl⟩

/-- What each of many small changes keeps, all of them together keep. -/
theorem foldl_keeps {β : Type} {R : LocalNet → LocalNet → Prop} (refl : ∀ net, R net net)
    (trans : ∀ {a b c}, R a b → R b c → R a c) {f : LocalNet → β → LocalNet} (h : ∀ net b, R net (f net b))
    (bs : List β) (net : LocalNet) : R net (bs.foldl f net) := by
  induction bs generalizing net with
  | nil => exact refl net
  | cons b rest ih => exact trans (h net b) (ih (f net b))

theorem silent_beginClose (net : LocalNet) (ids : List ChannelId) (timeout : Span) :
    Silent net (net.beginClose ids timeout).2 :=
  foldl_keeps .refl .trans silent_closeChannel ids net

theorem silent_endClose (net : LocalNet) (closing : Closing) : Silent net (net.endClose closing) :=
  foldl_keeps .refl .trans (fun net _ => silent_report net _) _ net

/-- A call takes no time to send. -/
theorem call_now (net : LocalNet) (id : ChannelId) (method payload : String) :
    (net.call id method payload).2.now = net.now := by
  unfold call
  split
  · rfl
  · split <;> rfl

theorem silent_connect {κ : Type} (n : Node κ) (net : LocalNet) : Silent net (n.connect net).2.2 := by
  unfold Node.connect
  split
  · exact .refl net
  · have ho := silent_open net n.endpoint n.channelOptions
    split
    · rename_i status net' heq
      rw [heq] at ho
      exact ho
    · rename_i id net' heq
      rw [heq] at ho
      exact ho.trans (silent_report net' _)

/-- What was seen of the transport. -/
def sightings (net : LocalNet) : List JournalEntry := net.journal.filter (·.what.isTransport)

/-- The transport was left alone between two states of a network: no channel was opened or refused, and nothing was
sent to a service, be it one that keeps a journal or not. -/
structure Unused (net net' : LocalNet) : Prop where
  arrivals : net'.arrivals = net.arrivals
  services : net'.services = net.services
  channels : net'.channels.length = net.channels.length
  sightings : net'.sightings = net.sightings

theorem Unused.refl (net : LocalNet) : Unused net net := ⟨rfl, rfl, rfl, rfl⟩

theorem Unused.trans {a b c : LocalNet} (hab : Unused a b) (hbc : Unused b c) : Unused a c :=
  ⟨hbc.arrivals.trans hab.arrivals, hbc.services.trans hab.services, hbc.channels.trans hab.channels,
    hbc.sightings.trans hab.sightings⟩

theorem unused_report (net : LocalNet) (event : Event) : Unused net (net.report event) := ⟨rfl, rfl, rfl, rfl⟩

theorem unused_note (net : LocalNet) (who : String) {what : Sighting} (h : what.isTransport = false) :
    Unused net (net.note who what) :=
  ⟨rfl, rfl, rfl, by simp [sightings, note, h]⟩

theorem unused_closeChannel (net : LocalNet) (id : ChannelId) : Unused net (net.closeChannel id) :=
  ⟨rfl, rfl, List.length_modify .., rfl⟩

theorem unused_beginClose (net : LocalNet) (ids : List ChannelId) (timeout : Span) :
    Unused net (net.beginClose ids timeout).2 :=
  foldl_keeps .refl .trans unused_closeChannel ids net

theorem unused_endClose (net : LocalNet) (closing : Closing) : Unused net (net.endClose closing) :=
  foldl_keeps .refl .trans (fun net _ => unused_report net _) _ net

theorem unused_sent (net : LocalNet) (stream : Stream) (item : Except Status String) :
    Unused net (net.sent stream item) := by
  unfold sent
  split
  · exact ⟨rfl, rfl, rfl, rfl⟩
  · exact .refl net

end LocalNet

end LedgerNet
