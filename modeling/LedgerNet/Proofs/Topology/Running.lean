import LedgerNet.Operation
import LedgerNet.Proofs.Topology.Distinct
import LedgerNet.Proofs.Transport.Channels

/-!
Operations on a topology as they run in a world, one after the other and each to its end. What an operation does to
the topology is what it does to it by itself. To the channels it does two things: it opens at most one, for a node
that it leases, and it closes those that it hands back.
-/
namespace LedgerNet

/-- Takes an operation up again once its wait is over. -/
def Operation.resume {β : Type} (begun : Operation β × World) : Operation β × World :=
  begun.1.step
    { begun.2 with net := { begun.2.net with now := max begun.2.now (begun.1.waiting.instant?.getD 0) } }

/-- A slot that gives back the topology that is put in it, and has nothing to do with the network. -/
structure Place (κ : Type) extends Slot κ where
  get_put : ∀ t w, get (put t w) = t
  net_put : ∀ t w, (put t w).net = w.net
  get_net : ∀ w net, get { w with net } = get w

namespace Place

def consensus : Place AccountId := ⟨.consensus, fun _ _ => rfl, fun _ _ => rfl, fun _ _ => rfl⟩

def mirror : Place String := ⟨.mirror, fun _ _ => rfl, fun _ _ => rfl, fun _ _ => rfl⟩

variable {κ : Type} (place : Place κ)

/-- Neither the topology in a place nor the channels changed between two worlds. -/
structure Untouched (w w' : World) : Prop where
  topology : place.get w' = place.get w
  channels : w.net.SameChannels w'.net

variable {place}

theorem Untouched.trans {a b c : World} (hab : place.Untouched a b) (hbc : place.Untouched b c) :
    place.Untouched a c :=
  ⟨hbc.topology.trans hab.topology, hab.channels.trans hbc.channels⟩

theorem untouched_net {w : World} {net : LocalNet} (h : w.net.SameChannels net) :
    place.Untouched w { w with net } :=
  ⟨place.get_net w net, h⟩

theorem untouched_reports (events : List Event) (w : World) : place.Untouched w (events.foldl World.report w) := by
  induction events generalizing w with
  | nil => exact ⟨rfl, .refl _⟩
  | cons event rest ih => exact (untouched_net (w.net.same_report event)).trans (ih (w.report event))

variable {β : Type} (answer : β)

theorem untouched_resume (w : World) : place.Untouched w (Operation.resume (.finished answer, w)).2 :=
  untouched_net ⟨rfl, rfl⟩

/-- While it waits for channels to close, an operation does nothing more. -/
theorem untouched_closing (c : Closing) (events : List Event) (w : World) :
    place.Untouched w (Operation.resume (.closing c events answer, w)).2 := by
  have hwaited : w.net.SameChannels { w.net with now := max w.now c.ends } := ⟨rfl, rfl⟩
  have hclosed := hwaited.trans (LocalNet.same_endClose _ c)
  exact (untouched_net hclosed).trans (untouched_reports events _)

/-- An operation is over once the channels are closed that its topology retired, and the topology stands in its
place. -/
theorem resume_retire (t : Topology κ) (retired : List ChannelId) (events : List Event) (w : World) :
    (Operation.resume (place.retire t retired events answer w)).1 = .finished answer ∧
    place.get (Operation.resume (place.retire t retired events answer w)).2 = t ∧
    (retired.foldl LocalNet.closeChannel w.net).SameChannels
      (Operation.resume (place.retire t retired events answer w)).2.net := by
  have hu : place.Untouched _ _ := untouched_closing answer (w.net.beginClose retired t.closeTimeout).1 events
    { place.put t w with net := (w.net.beginClose retired t.closeTimeout).2 }
  refine ⟨rfl, hu.topology.trans ?_, hu.channels⟩
  rw [place.get_net, place.get_put]

/-- A switch that changes nothing is over at once. -/
theorem resume_switch (switched : Option (List ChannelId × Topology κ)) (events : List Event) (w : World) :
    let begun := match switched with
      | none => (.finished false, w)
      | some (retired, t) => place.retire t retired events true w
    place.get (Operation.resume begun).2 = (switched.map (·.2)).getD (place.get w) ∧
    (((switched.map (·.1)).getD []).foldl LocalNet.closeChannel w.net).SameChannels
      (Operation.resume begun).2.net := by
  cases switched with
  | none =>
    have hu : place.Untouched _ _ := untouched_resume false w
    exact ⟨hu.topology, hu.channels⟩
  | some switched => exact (resume_retire true switched.2 switched.1 events w).2

/-- A failure that is marked at no node is over at once. -/
theorem resume_failure (failed : Option Topology.Marked × Topology κ × LocalNet)
    (events : Topology.Marked → List Event) (w : World) :
    let begun : Operation (Option NodeHealth) × World := match failed with
      | (none, t, net) => (.finished none, { place.put t w with net })
      | (some marked, t, net) => place.retire t marked.retired (events marked) (some marked.health) { w with net }
    place.get (Operation.resume begun).2 = failed.2.1 ∧
    (((failed.1.map (·.retired)).getD []).foldl LocalNet.closeChannel failed.2.2).SameChannels
      (Operation.resume begun).2.net := by
  obtain ⟨marked?, t, net⟩ := failed
  cases marked? with
  | none =>
    have hu : place.Untouched _ _ := untouched_resume (none : Option NodeHealth) { place.put t w with net }
    refine ⟨hu.topology.trans ?_, hu.channels⟩
    rw [place.get_net, place.get_put]
  | some marked => exact (resume_retire (some marked.health) t marked.retired (events marked) { w with net }).2

end Place

/-- The channel that is opened for a node. -/
def Node.newChannel {κ : Type} (n : Node κ) : Channel := { endpoint := n.endpoint, options := n.channelOptions }

namespace Topology

/-- The network once an operation has opened what it leases. -/
def Op.opens (net : LocalNet) : {κ : Type} → [DecidableEq κ] → [Identity κ] → Op κ → Topology κ → LocalNet
  | _, _, _, .lease id, t => (t.lease id net).2.2
  | _, _, _, .leaseNext, t => (t.leaseNext net).2.2
  | _, _, _, .fail endpoint, t => (t.markFailure endpoint net).2.2
  | _, _, _, .book fetched, t => (t.applyBook fetched net).2
  | _, _, _, _, _ => net

/-- The channels that an operation hands back to be closed. -/
def Op.retires (net : LocalNet) : {κ : Type} → [DecidableEq κ] → [Identity κ] → Op κ → Topology κ → List ChannelId
  | _, _, _, .replace network, t => (t.replaceNetwork network net.now).2.1
  | _, _, _, .security secure, t => ((t.switchSecurity secure net.now).map (·.1)).getD []
  | _, _, _, .verify wanted, t => ((t.switchVerify wanted net.now).map (·.1)).getD []
  | _, _, _, .fail endpoint, t => ((t.markFailure endpoint net).1.map (·.retired)).getD []
  | _, _, _, .clear, t => t.clear.1
  | _, _, _, _, _ => []

/-- The world after an operation on the topology in a place has run to its end. -/
def Op.carryOut : {κ : Type} → [DecidableEq κ] → [Identity κ] → Place κ → Op κ → World → World
  | _, _, _, place, .replace network, w => (Operation.resume (place.setNetwork network w)).2
  | _, _, _, place, .security secure, w => (Operation.resume (place.setSecurity secure w)).2
  | _, _, _, place, .verify wanted, w => (Operation.resume (place.setVerify wanted w)).2
  | _, _, _, place, .lease id, w =>
    let (_, t, net) := (place.get w).lease id w.net
    { place.put t w with net }
  | _, _, _, place, .leaseNext, w =>
    let (_, t, net) := (place.get w).leaseNext w.net
    { place.put t w with net }
  | _, _, _, place, .succeed endpoint, w => place.put ((place.get w).markSuccess endpoint w.now) w
  | _, _, _, place, .fail endpoint, w => (Operation.resume (place.fail endpoint w)).2
  | _, _, _, place, .clear, w => (Operation.resume (place.close w)).2
  | _, _, _, place, .maxNodes count, w => place.put { place.get w with maxNodes := count } w
  | _, _, _, place, .ledger known, w => place.put { place.get w with ledger := known } w
  | _, _, _, place, .book fetched, w =>
    let (t, net) := (place.get w).applyBook fetched w.net
    { place.put t w with net }

variable {κ : Type}

/-- What leasing a node does: at most it opens a channel for the node, and the round robin goes on. -/
inductive Leases (t : Topology κ) (net : LocalNet) (t' : Topology κ) (net' : LocalNet) : Prop
  | same (turn : Nat) (eq : t' = { t with turn }) (channels : net.SameChannels net')
  | opens (turn : Nat) (n : Node κ) (mem : n ∈ t.nodes) (idle : n.channel = none)
      (eq : t' = { t with nodes := Topology.replace { n with channel := some net.openedCount } t.nodes, turn })
      (channels : net.Opens net' [n.newChannel])

theorem connect_cases (n : Node κ) (net : LocalNet) :
    (n.connect net).2.1 = n ∧ net.SameChannels (n.connect net).2.2 ∨
    n.channel = none ∧ (n.connect net).2.1 = { n with channel := some net.openedCount } ∧
      net.Opens (n.connect net).2.2 [n.newChannel] := by
  unfold Node.connect
  split
  · exact .inl ⟨rfl, .refl net⟩
  · rename_i hnone
    rcases net.openChannel_cases n.endpoint n.channelOptions with ⟨status, net', heq, hsame⟩ | ⟨net', heq, hopens⟩
    · rw [heq]
      exact .inl ⟨rfl, hsame⟩
    · rw [heq]
      exact .inr ⟨hnone, rfl, ⟨hopens.channels, hopens.fresh, hopens.slow⟩⟩

theorem Settled.leases_node {t : Topology κ} (h : t.Settled) {n : Node κ} (hn : n ∈ t.nodes) (net : LocalNet) :
    Leases t net (t.leaseNode n net).2.1 (t.leaseNode n net).2.2 := by
  have hl : (t.leaseNode n net).2.1 = { t with nodes := Topology.replace (n.connect net).2.1 t.nodes } := rfl
  rcases connect_cases n net with ⟨heq, hsame⟩ | ⟨hnone, heq, hopens⟩
  · have hid : Topology.replace n t.nodes = t.nodes := by simpa using h.map_replace id hn rfl rfl
    exact .same t.turn (by rw [hl, heq, hid]) hsame
  · exact .opens t.turn n hn hnone (by rw [hl, heq]) hopens

theorem Settled.leases [DecidableEq κ] {t : Topology κ} (h : t.Settled) (id : κ) (net : LocalNet) :
    Leases t net (t.lease id net).2.1 (t.lease id net).2.2 := by
  unfold Topology.lease
  cases hb : t.bestOf? id with
  | none => exact .same t.turn rfl (.refl net)
  | some n => exact h.leases_node (List.mem_filter.mp (best_mem hb)).1 net

theorem Settled.leases_next {t : Topology κ} (h : t.Settled) (net : LocalNet) :
    Leases t net (t.leaseNext net).2.1 (t.leaseNext net).2.2 := by
  unfold leaseNext
  split
  · exact .same t.turn rfl (.refl net)
  · rename_i place _
    split
    · exact .same t.turn rfl (.refl net)
    · rename_i n hn
      have hturn : Settled { t with turn := (place + 1) % t.nodes.length } := ⟨h.placed, h.ordered, h.bound⟩
      cases hturn.leases_node (List.mem_of_getElem? hn) net with
      | same turn eq channels => exact .same turn eq channels
      | opens turn n mem idle eq channels => exact .opens turn n mem idle eq channels

/-- The node at an endpoint, and what a change there leaves. -/
theorem nodeAt_split {endpoint : Endpoint} {nodes : List (Node κ)} {n : Node κ}
    (h : nodes.find? (·.endpoint == endpoint) = some n) :
    ∃ before after, nodes = before ++ n :: after ∧
      (∀ g, updateAt endpoint g nodes = before ++ g n :: after) ∧ removeAt endpoint nodes = before ++ after := by
  induction nodes with
  | nil => cases h
  | cons first rest ih =>
    cases hfirst : first.endpoint == endpoint with
    | true =>
      simp only [List.find?_cons, hfirst, Option.some.injEq] at h
      subst h
      exact ⟨[], rest, rfl, by simp [updateAt, hfirst], by simp [removeAt, hfirst]⟩
    | false =>
      simp only [List.find?_cons, hfirst] at h
      obtain ⟨before, after, rfl, hupdate, hremove⟩ := ih h
      exact ⟨first :: before, after, rfl, by simp [updateAt, hfirst, hupdate], by simp [removeAt, hfirst, hremove]⟩

theorem updateAt_none {endpoint : Endpoint} {nodes : List (Node κ)}
    (h : nodes.find? (·.endpoint == endpoint) = none) (g : Node κ → Node κ) : updateAt endpoint g nodes = nodes := by
  induction nodes with
  | nil => rfl
  | cons first rest ih =>
    rw [List.find?_eq_none] at h
    have hfirst : (first.endpoint == endpoint) = false := by simpa using h first List.mem_cons_self
    have hrest := ih (List.find?_eq_none.mpr fun n hn => h n (List.mem_cons_of_mem _ hn))
    simp only [updateAt, hfirst, Bool.false_eq_true, if_false, hrest]

/-- What marking a failure does: its node is benched, or removed if it has failed too often. -/
inductive Fails (t : Topology κ) (net : LocalNet) (retired : List ChannelId) (t' : Topology κ) (net' : LocalNet) : Prop
  | unknown (eq : t' = t) (none : retired = []) (same : net.SameChannels net')
  | benched (before after : List (Node κ)) (n : Node κ) (health : NodeHealth) (nodes : t.nodes = before ++ n :: after)
      (few : ∀ max, t.maxFailures = some max → health.failures < max)
      (eq : t' = { t with nodes := before ++ { n with health } :: after }) (none : retired = [])
      (same : net.SameChannels net')
  | removed (before after : List (Node κ)) (n : Node κ) (nodes : t.nodes = before ++ n :: after)
      (eq : t' = { t with nodes := before ++ after }) (channel : retired = n.channel.toList)
      (same : net.SameChannels net')

theorem fails [Identity κ] (t : Topology κ) (endpoint : Endpoint) (net : LocalNet) :
    Fails t net (((t.markFailure endpoint net).1.map (·.retired)).getD []) (t.markFailure endpoint net).2.1
      (t.markFailure endpoint net).2.2 := by
  unfold markFailure
  split
  · exact .unknown rfl rfl (.refl net)
  · rename_i n hn
    obtain ⟨before, after, hnodes, hupdate, hremove⟩ := nodeAt_split hn
    dsimp only
    split
    · exact .removed before after n hnodes (by rw [hremove]) rfl ⟨rfl, rfl⟩
    · rename_i hfew
      refine .benched before after n (n.health.fail t.backoff net.now) hnodes ?_ (by rw [hupdate]) rfl (.refl net)
      intro max hmax
      simpa [hmax] using hfew

variable [DecidableEq κ] [Identity κ]

/-- What comes of an operation that has run to its end. -/
structure CarriedOut (place : Place κ) (op : Op κ) (w w' : World) : Prop where
  topology : place.get w' = op.after w.net (place.get w)
  channels : ((op.retires w.net (place.get w)).foldl LocalNet.closeChannel (op.opens w.net (place.get w))).SameChannels
    w'.net

theorem carried_out (place : Place κ) (op : Op κ) (w : World) : CarriedOut place op w (op.carryOut place w) := by
  have hput (t : Topology κ) (net : LocalNet) : place.get { place.put t w with net } = t := by
    rw [place.get_net, place.get_put]
  have hsame (t : Topology κ) : w.net.SameChannels (place.put t w).net := place.net_put t w ▸ .refl _
  cases op with
  | replace network =>
    obtain ⟨-, ht, hc⟩ := Place.resume_retire _ _ _ _ w
    exact ⟨ht, hc⟩
  | security secure =>
    obtain ⟨ht, hc⟩ := Place.resume_switch ((place.get w).switchSecurity secure w.now) _ w
    exact ⟨ht, hc⟩
  | verify wanted =>
    obtain ⟨ht, hc⟩ := Place.resume_switch ((place.get w).switchVerify wanted w.now) _ w
    exact ⟨ht, hc⟩
  | lease id => exact ⟨hput _ _, .refl _⟩
  | leaseNext => exact ⟨hput _ _, .refl _⟩
  | succeed endpoint => exact ⟨place.get_put _ w, hsame _⟩
  | fail endpoint =>
    obtain ⟨ht, hc⟩ := Place.resume_failure ((place.get w).markFailure endpoint w.net) _ w
    exact ⟨ht, hc⟩
  | clear =>
    obtain ⟨-, ht, hc⟩ := Place.resume_retire _ _ _ _ w
    exact ⟨ht, hc⟩
  | maxNodes count => exact ⟨place.get_put _ w, hsame _⟩
  | ledger known => exact ⟨place.get_put _ w, hsame _⟩
  | book fetched => exact ⟨hput _ _, .refl _⟩

/-- What happens around a topology: an operation on it, or something that has to do with neither it nor the
channels. -/
inductive Move (κ : Type) : Type 1 where
  | op (op : Op κ)
  | elsewhere (f : World → World)

end Topology

namespace Place

variable {κ : Type} (place : Place κ)

/-- Any change of the world but of the topology in a place, of the channels and of which of them are slow to close. -/
def elsewhere (f : World → World) (w : World) : World :=
  place.put (place.get w)
    { f w with net := { (f w).net with channels := w.net.channels, slowToClose := w.net.slowToClose } }

theorem untouched_elsewhere (f : World → World) (w : World) : place.Untouched w (place.elsewhere f w) :=
  ⟨place.get_put _ _, ⟨by rw [elsewhere, place.net_put], by rw [elsewhere, place.net_put]⟩⟩

variable [DecidableEq κ] [Identity κ]

def make (w : World) : Topology.Move κ → World
  | .op op => op.carryOut place w
  | .elsewhere f => place.elsewhere f w

/-- A new topology in its place, before any channel is opened. -/
def founded (o : TopologyOptions) (w : World) : World :=
  place.put (.empty o) { w with net := { w.net with channels := [] } }

/-- The world after some moves, the latest first. -/
def course (o : TopologyOptions) (w : World) : List (Topology.Move κ) → World
  | [] => place.founded o w
  | move :: past => place.make (course o w past) move

/-- The channels that operations handed back to be closed. How often each was then told to is for the network to say. -/
def closings (o : TopologyOptions) (w : World) : List (Topology.Move κ) → List ChannelId
  | [] => []
  | .op op :: past =>
    closings o w past ++ op.retires (place.course o w past).net (place.get (place.course o w past))
  | .elsewhere _ :: past => closings o w past

theorem settled_course (o : TopologyOptions) (w : World) (moves : List (Topology.Move κ)) :
    (place.get (place.course o w moves)).Settled := by
  induction moves with
  | nil =>
    rw [course, founded, place.get_put]
    exact Topology.settled_after o []
  | cons move past ih =>
    cases move with
    | op op =>
      rw [course, make, (Topology.carried_out place op _).topology]
      exact ih.after_op op _
    | elsewhere f =>
      rw [course, make, (place.untouched_elsewhere f _).topology]
      exact ih

/-- A node is entered, and leased. -/
def leased : List (Topology.Move AccountId) :=
  [.op (.lease ⟨0, 0, 3⟩), .op (.replace [(.inProcess "n", ⟨0, 0, 3⟩)])]

/-- A world with nothing in it. -/
def blank : World := { net := {}, consensus := .empty {}, mirror := .empty {} }

end Place

end LedgerNet
