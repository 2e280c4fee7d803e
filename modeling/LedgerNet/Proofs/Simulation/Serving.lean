import LedgerNet.Proofs.Subscription.Lossless
import LedgerNet.Proofs.Topology.Operations
import LedgerNet.Proofs.Transport.Silence

/-!
The only mirror of a subscription, as the simulator runs it. Of all that a drive does, asking for a stream changes what
the mirror will do, and taking an element of one changes what the simulator has counted; nothing else does.
-/
namespace LedgerNet

open Simulation Wire

namespace LocalNet

/-- Services, channels and refusals are what they were, and nothing was counted. -/
structure Still (net net' : LocalNet) : Prop where
  services : net'.services = net.services
  channels : net'.channels = net.channels
  refused : net'.refused = net.refused
  metrics : net'.metrics = net.metrics

theorem Still.refl (net : LocalNet) : Still net net := ⟨rfl, rfl, rfl, rfl⟩

theorem Still.trans {a b c : LocalNet} (hab : Still a b) (hbc : Still b c) : Still a c :=
  ⟨hbc.services.trans hab.services, hbc.channels.trans hab.channels, hbc.refused.trans hab.refused,
    hbc.metrics.trans hab.metrics⟩

theorem still_endClose (net : LocalNet) (closing : Closing) : Still net (net.endClose closing) :=
  foldl_keeps .refl .trans (fun _ _ => ⟨rfl, rfl, rfl, rfl⟩) _ net

/-- A simulated mirror stands behind a node, whose channel is open if it has one and will open if it has none. -/
structure Offers (net : LocalNet) (node : Node String) (mirror : Mirror) : Prop where
  served : ∃ registration, net.serving? node.endpoint = some registration ∧ registration.service = .mirror mirror
  opens : node.channel = none → net.refused.lookup node.endpoint = none
  opened : ∀ id ∈ node.channel, ∃ options closes, net.channels[id]? = some ⟨node.endpoint, options, false, closes⟩

theorem Offers.congr {net net' : LocalNet} {node node' : Node String} {mirror : Mirror} (h : net.Offers node mirror)
    (hn : Still net net') (he : node'.endpoint = node.endpoint) (hc : node'.channel = node.channel) :
    net'.Offers node' mirror := by
  have hserving : net'.serving? node.endpoint = net.serving? node.endpoint := by simp only [serving?, hn.services]
  refine ⟨?_, ?_, ?_⟩
  · rw [he, hserving]
    exact h.served
  · rw [hc, he, hn.refused]
    exact h.opens
  · rw [hc, he, hn.channels]
    exact h.opened

theorem serving_putService (net : LocalNet) (key : String) (service : Service) (endpoint : Endpoint) :
    (net.putService key service).serving? endpoint =
      (net.serving? endpoint).map fun r => if r.key == key then { r with service } else r := by
  have hfind (name : String) : (net.putService key service).services.find? (·.key == name) =
      (net.services.find? (·.key == name)).map fun r => if r.key == key then { r with service } else r := by
    have hkey (r : Registration) : (if r.key == key then { r with service } else r).key = r.key := by split <;> rfl
    simp only [putService, List.find?_map, Function.comp_def, hkey]
  unfold serving?
  rw [hfind]
  cases net.services.find? (·.key == endpoint.text) with
  | some r => rfl
  | none =>
    cases endpoint.host? with
    | none => rfl
    | some host => exact hfind host

/-- There is a channel to the mirror, or one is opened. -/
theorem Offers.connect {net : LocalNet} {node : Node String} {mirror : Mirror} (h : net.Offers node mirror) :
    ∃ id connected net', node.connect net = (.ok id, connected, net') ∧ connected.seq = node.seq ∧
      connected.channel = some id ∧ net'.Offers connected mirror ∧ net'.metrics = net.metrics := by
  unfold Node.connect
  cases hc : node.channel with
  | some id => exact ⟨id, node, net, rfl, rfl, hc, h, rfl⟩
  | none =>
    have hopens := h.opens hc
    simp only [openChannel, hopens]
    refine ⟨net.channels.length, _, _, rfl, rfl, rfl, ⟨h.served, (fun hnone => nomatch hnone), ?_⟩, rfl⟩
    intro id hid
    cases hid
    exact ⟨_, _, List.getElem?_concat_length⟩

/-- A mirror is asked for a stream on an open channel. -/
theorem Offers.openStream {net : LocalNet} {node : Node String} {mirror : Mirror} {id : ChannelId}
    (h : net.Offers node mirror) (hc : node.channel = some id) (method payload : String) :
    (net.openStream id method payload).1 = some (mirror.openStream payload).1 ∧
      (net.openStream id method payload).2.Offers node (mirror.openStream payload).2 ∧
      (net.openStream id method payload).2.metrics = net.metrics := by
  obtain ⟨registration, hserving, hservice⟩ := h.served
  obtain ⟨options, closes, hopen⟩ := h.opened id hc
  have hreach : net.reach id = .ok registration := by simp [reach, hopen, hserving, hservice, Service.certificate?]
  simp only [LocalNet.openStream, hreach, hservice]
  refine ⟨trivial, ⟨?_, h.opens, h.opened⟩, rfl⟩
  have harrived : (net.arrive registration method payload).serving? node.endpoint = some registration := hserving
  rw [serving_putService, harrived]
  exact ⟨_, rfl, by simp⟩

end LocalNet

/-- The only mirror that is known is never removed for failing, and a simulated mirror stands behind it. -/
structure World.Sees (w : World) (mirror : Mirror) : Prop where
  kept : w.mirror.maxFailures = none
  offered : ∃ node, w.mirror.nodes = [node] ∧ w.net.Offers node mirror

/-- The simulated mirror is left as it is, and nothing that it sends is counted. -/
structure World.Spares (w w' : World) : Prop where
  sees : ∀ mirror, w.Sees mirror → w'.Sees mirror
  served : w'.net.metrics.served = w.net.metrics.served
  breaks : w'.net.metrics.breaks = w.net.metrics.breaks

namespace World

variable {w w' w'' : World} {mirror : Mirror}

theorem Sees.congr (h : w.Sees mirror) (hm : w'.mirror.maxFailures = w.mirror.maxFailures)
    (hnodes : w'.mirror.nodes.map (fun n => (n.endpoint, n.channel)) =
      w.mirror.nodes.map fun n => (n.endpoint, n.channel)) (hn : w.net.Still w'.net) : w'.Sees mirror := by
  obtain ⟨node, hnode, hoffers⟩ := h.offered
  rw [hnode, List.map_singleton, List.map_eq_singleton_iff] at hnodes
  obtain ⟨node', hnode', hplace⟩ := hnodes
  obtain ⟨he, hc⟩ := Prod.mk.inj hplace
  exact ⟨hm.trans h.kept, node', hnode', hoffers.congr hn he hc⟩

theorem Spares.refl (w : World) : w.Spares w := ⟨fun _ h => h, rfl, rfl⟩

theorem Spares.trans (h : w.Spares w') (h' : w'.Spares w'') : w.Spares w'' :=
  ⟨fun mirror hs => h'.sees mirror (h.sees mirror hs), h'.served.trans h.served, h'.breaks.trans h.breaks⟩

theorem Spares.of_still (hm : w'.mirror = w.mirror) (hn : w.net.Still w'.net) : w.Spares w' :=
  ⟨fun _ h => h.congr (by rw [hm]) (by rw [hm]) hn, by rw [hn.metrics], by rw [hn.metrics]⟩

theorem spares_markSuccess (w : World) (endpoint : Endpoint) :
    w.Spares { w with mirror := w.mirror.markSuccess endpoint w.now } := by
  refine ⟨fun mirror h => h.congr rfl ?_ (.refl _), rfl, rfl⟩
  exact Topology.map_updateAt _ (by intro n; rfl) _ _

/-- A failure benches a mirror that is never removed, and closes nothing. -/
theorem spares_markFailure {endpoint : Endpoint} {marked : Option Topology.Marked} {topology : Topology String}
    {net : LocalNet} (h : w.mirror.markFailure endpoint w.net = (marked, topology, net)) :
    w.Spares { w with mirror := topology, net } ∧ (w.mirror.maxFailures = none → ∀ m ∈ marked, m.retired = []) := by
  unfold Topology.markFailure at h
  split at h
  · cases h
    exact ⟨.refl w, fun _ m hm => by cases hm⟩
  · dsimp only at h
    split at h
    · rename_i hremoved
      cases h
      have hsome (hnone : w.mirror.maxFailures = none) : False := by simp [hnone] at hremoved
      exact ⟨⟨fun mirror hs => (hsome hs.kept).elim, rfl, rfl⟩, fun hnone => (hsome hnone).elim⟩
    · cases h
      refine ⟨⟨fun mirror hs => hs.congr rfl ?_ (.refl _), rfl, rfl⟩, ?_⟩
      · exact Topology.map_updateAt _ (by intro n; rfl) _ _
      · rintro - m hm
        cases hm
        rfl

/-- The turn of the only mirror always comes, and there is an open channel to it then. -/
theorem Sees.turn (h : w.Sees mirror) : ∃ lease topology net node id,
    w.mirror.leaseNext w.net = (some lease, topology, net) ∧ lease.channel = .ok id ∧ topology.maxFailures = none ∧
      topology.nodes = [node] ∧ node.channel = some id ∧ net.Offers node mirror ∧ net.metrics = w.net.metrics := by
  obtain ⟨node, hnode, hoffers⟩ := h.offered
  obtain ⟨id, connected, net, hconnect, hseq, hchannel, hoffers', hmetrics⟩ := hoffers.connect
  have hplace : w.mirror.nextPlace? w.net.now = some 0 := by
    simp only [Topology.nextPlace?, hnode, List.length_singleton, Nat.max_self, Nat.mod_one, List.range_one,
      List.map_singleton, List.find?_singleton, List.foldl_cons, List.foldl_nil]
    split <;> rfl
  have hlease : w.mirror.leaseNext w.net = (some ⟨node.id, node.endpoint, node.health, .ok id⟩,
      { w.mirror with turn := 1 % w.mirror.nodes.length, nodes := Topology.replace connected w.mirror.nodes },
      net) := by
    simp only [Topology.leaseNext, hplace, hnode, List.getElem?_cons_zero, Topology.leaseNode, hconnect]
  refine ⟨_, _, net, connected, id, hlease, rfl, h.kept, ?_, hchannel, hoffers', hmetrics⟩
  simp [Topology.replace, hnode, hseq]

end World

/-- The stream that a drive has at hand. -/
def DrivePhase.stream? : DrivePhase → Option Stream
  | .opening _ (some (.ok stream)) => some stream
  | .receiving _ (.element _ _ stream) => some stream
  | _ => none

/-- The simulator counts what the drive takes of its stream. -/
def DrivePhase.IsMetered (phase : DrivePhase) : Prop := ∀ stream ∈ phase.stream?, stream.metered = true

/-- Whether a drive neither asks for a stream nor takes an element of one. -/
def DrivePhase.isIdle : DrivePhase → Bool
  | .connecting | .receiving _ (.element ..) => false
  | _ => true

namespace Drive

/-- The simulated mirror is left alone, and no stream is at hand then that the simulator does not count. -/
structure Idles (w : World) (after : Drive × World) : Prop where
  spares : w.Spares after.2
  metered : after.1.phase.IsMetered

variable {d : Drive} {w v : World}

theorem Idles.of_spares {after : Drive × World} (h : Idles v after) (hs : w.Spares v) : Idles w after :=
  ⟨hs.trans h.spares, h.metered⟩

theorem idles_complete (d : Drive) (w : World) : Idles w (d.complete w) := by
  unfold complete
  split
  · exact ⟨.of_still rfl ⟨rfl, rfl, rfl, rfl⟩, fun _ h => by cases h⟩
  · dsimp only [stop]
    refine ⟨?_, fun _ h => by cases h⟩
    split <;> exact .of_still rfl ⟨rfl, rfl, rfl, rfl⟩

theorem idles_fail (d : Drive) (error : SubscriptionError) (w : World) : Idles w (d.fail error w) := by
  unfold fail
  split
  · exact ⟨.of_still rfl ⟨rfl, rfl, rfl, rfl⟩, fun _ h => by cases h⟩
  · dsimp only [stop]
    refine ⟨?_, fun _ h => by cases h⟩
    split <;> exact .of_still rfl ⟨rfl, rfl, rfl, rfl⟩

theorem idles_retry (d : Drive) (status : Status) (w : World) : Idles w (d.retry status w) := by
  unfold retry
  split
  · exact d.idles_fail _ w
  · split
    · exact d.idles_fail _ w
    · exact ⟨.of_still rfl ⟨rfl, rfl, rfl, rfl⟩, fun _ h => by cases h⟩

theorem idles_endStream (d : Drive) (mirror : Endpoint) (how : StreamEnd) (w : World) :
    Idles w (d.endStream mirror how w) := by
  have hjudged : w.Spares (if d.receivedBefore < d.received then
      { w with mirror := w.mirror.markSuccess mirror w.now } else w) := by
    split
    · exact w.spares_markSuccess mirror
    · exact .refl w
  unfold endStream
  dsimp only
  generalize (if d.receivedBefore < d.received then
      { w with mirror := w.mirror.markSuccess mirror w.now } else w) = v at hjudged
  refine Idles.of_spares ?_ hjudged
  split
  · exact ⟨.of_still rfl ⟨rfl, rfl, rfl, rfl⟩, fun _ h => by cases h⟩
  · exact d.idles_complete v
  · exact d.idles_fail _ v
  · split
    · rename_i heq
      exact (d.idles_retry _ _).of_spares (World.spares_markFailure heq).1
    · rename_i marked topology net heq
      obtain ⟨hspares, hnone⟩ := World.spares_markFailure heq
      refine ⟨⟨?_, ?_, ?_⟩, fun _ h => by cases h⟩
      · intro m hm
        have hretired : marked.retired = [] := hnone hm.kept marked rfl
        simp only [hretired]
        exact hspares.sees m hm
      · dsimp only
        rw [(LocalNet.silent_beginClose net marked.retired topology.closeTimeout).metrics]
        exact hspares.served
      · dsimp only
        rw [(LocalNet.silent_beginClose net marked.retired topology.closeTimeout).metrics]
        exact hspares.breaks

theorem idles_pull (d : Drive) (mirror : Endpoint) {stream : Stream} (hm : stream.metered = true) (w : World) :
    Idles w (d.pull mirror stream w) := by
  refine ⟨.refl w, ?_⟩
  intro s hs
  unfold pull Stream.pull at hs
  dsimp only at hs
  split at hs
  · cases hs
    exact hm
  · split at hs <;> cases hs

theorem idles_accept (d : Drive) (mirror : Endpoint) (r : TopicResponse) {stream : Stream}
    (hm : stream.metered = true) (w : World) : Idles w (d.accept mirror r stream w) := by
  have hreported : w.Spares (d.reportChunk r w) := by
    unfold reportChunk
    split
    · exact .refl w
    · split
      · exact .refl w
      · exact .of_still rfl ⟨rfl, rfl, rfl, rfl⟩
  have hrest (going : Bool) (d' : Drive) (u : World) : Idles u
      (if (!going) = true then d'.endStream mirror .cancelled u
        else if d'.limitMet = true then d'.endStream mirror .completed u else d'.pull mirror stream u) := by
    split
    · exact d'.idles_endStream _ _ u
    · split
      · exact d'.idles_endStream _ _ u
      · exact d'.idles_pull mirror hm u
  have hhanded (d' : Drive) (message : TopicMessage) (u : World) : u.Spares (d'.handOn message u).2.2 := by
    unfold handOn
    split
    · exact .refl u
    · dsimp only
      split <;> exact .of_still rfl ⟨rfl, rfl, rfl, rfl⟩
  unfold accept
  dsimp only
  generalize d.reportChunk r w = v at hreported
  refine Idles.of_spares ?_ hreported
  cases (d.chunks.accept r).2 with
  | none => exact hrest true _ v
  | some message => exact (hrest _ _ _).of_spares (hhanded _ message v)

/-- Whatever becomes of an element, the simulator counts it, and then all is left alone. -/
theorem idles_receive (d : Drive) (mirror : Endpoint) (item : Except Status String) {stream : Stream}
    (hm : stream.metered = true) (w : World) :
    Idles { w with net := w.net.sent stream item } (d.receive mirror item stream w) := by
  unfold receive
  dsimp only
  split
  · exact d.idles_endStream _ _ _
  · split
    · exact d.idles_endStream _ _ _
    · exact d.idles_accept _ _ hm _

/-- A drive that neither asks for a stream nor takes an element of one leaves all alone. -/
theorem idles_step (d : Drive) (w : World) (hi : d.phase.isIdle = true) (hm : d.phase.IsMetered) :
    Idles w (d.step w) := by
  unfold step
  dsimp only
  split
  · rename_i hp
    simp [DrivePhase.isIdle, hp] at hi
  · split
    · exact d.idles_endStream _ _ w
    · split
      · exact ⟨.refl w, hm⟩
      · exact d.idles_endStream _ _ w
      · rename_i stream hp
        refine d.idles_pull _ (hm stream ?_) w
        rw [hp]
        rfl
  · split
    · exact d.idles_endStream _ _ w
    · split
      · rename_i hp
        simp [DrivePhase.isIdle, hp] at hi
      · exact d.idles_endStream _ _ w
      · exact ⟨.refl w, hm⟩
  · rename_i closing _ _
    refine (d.idles_retry _ _).of_spares (.of_still rfl ?_)
    exact (LocalNet.still_endClose w.net _).trans ⟨rfl, rfl, rfl, rfl⟩
  · split
    · exact ⟨.of_still rfl ⟨rfl, rfl, rfl, rfl⟩, fun _ h => by cases h⟩
    · exact ⟨.refl w, fun _ h => by cases h⟩
  · exact ⟨.refl w, hm⟩

end Drive

end LedgerNet
