import Mathlib
import LedgerNet.Proofs.Topology.Running

/-!
No channel is lost and none is closed twice. Whatever an operation does, the channels that its nodes hold afterwards
and those that it hands back to be closed are together the ones that its nodes held before and the one that it opens;
and a channel is told to close as often as it is handed back.
-/
namespace LedgerNet

open scoped List

namespace Topology

variable {κ : Type}

/-- The channels that nodes hold. -/
def held (t : Topology κ) : List ChannelId := t.nodes.filterMap (·.channel)

/-- How many nodes hold a channel. -/
def holders (t : Topology κ) (id : ChannelId) : Nat := t.nodes.countP (·.channel == some id)

theorem count_held (t : Topology κ) (id : ChannelId) : t.held.count id = t.holders id := List.count_filterMap

theorem length_held (t : Topology κ) : t.held.length = t.nodes.countP (·.channel.isSome) :=
  List.length_filterMap_eq_countP

/-- Two lists of nodes whose channels agree. -/
theorem held_congr {t t' : Topology κ} (h : t'.nodes.map (·.channel) = t.nodes.map (·.channel)) : t'.held = t.held := by
  have hmap (t : Topology κ) : t.held = (t.nodes.map (·.channel)).filterMap id := by
    rw [List.filterMap_map]
    rfl
  rw [hmap, hmap, h]

theorem replace_of_ne {m : Node κ} {nodes : List (Node κ)} (h : ∀ n ∈ nodes, n.seq ≠ m.seq) :
    Topology.replace m nodes = nodes := by
  refine (List.map_congr_left ?_).trans (List.map_id nodes)
  intro n hn
  exact if_neg (by simp [h n hn])

/-- A node that takes the place of another with its number takes that of no other. -/
theorem Settled.replace_split {t : Topology κ} (h : t.Settled) {n m : Node κ} (hn : n ∈ t.nodes)
    (hs : m.seq = n.seq) :
    ∃ before after, t.nodes = before ++ n :: after ∧ Topology.replace m t.nodes = before ++ m :: after := by
  obtain ⟨before, after, heq⟩ := List.mem_iff_append.mp hn
  have hp : t.nodes.Pairwise fun a b => a.seq < b.seq := List.pairwise_map.mp h.ordered
  rw [heq] at hp
  obtain ⟨-, htail, hcross⟩ := List.pairwise_append.mp hp
  have hbefore : Topology.replace m before = before := by
    refine replace_of_ne fun a ha => ?_
    have hlt := hcross a ha n List.mem_cons_self
    omega
  have hafter : Topology.replace m after = after := by
    refine replace_of_ne fun a ha => ?_
    have hlt := List.rel_of_pairwise_cons htail ha
    omega
  have hmid : (if n.seq == m.seq then m else n) = m := if_pos (by simp [hs])
  refine ⟨before, after, heq, ?_⟩
  rw [heq, Topology.replace, List.map_append, List.map_cons, hmid]
  exact congrArg₂ (· ++ m :: ·) hbefore hafter

variable {t t' : Topology κ} {net net' : LocalNet} {closings retired : List ChannelId}

theorem held_entered [DecidableEq κ] (now : Instant) (pairs : List (Endpoint × κ)) (t : Topology κ) :
    (pairs.foldl (fun t pair => t.enter now pair) t).held = t.held := by
  induction pairs generalizing t with
  | nil => rfl
  | cons pair rest ih =>
    rw [List.foldl_cons, ih]
    simp [held, enter]

theorem held_moved (t : Topology κ) (endpoint : Endpoint → Endpoint) (verify : Node κ → Bool) (now : Instant) :
    (t.moveAll endpoint verify now).2.held = [] ∧ (t.moveAll endpoint verify now).1 = t.held := by
  refine ⟨?_, rfl⟩
  simp [held, moveAll, Node.moved, List.filterMap_map]

/-- Between two states of a topology channels were opened and handed back, and none was lost: those that nodes hold
now and those that were handed back are those that nodes held before and those that were opened. -/
def Balances (t : Topology κ) (net : LocalNet) (t' : Topology κ) (net' : LocalNet) (retired : List ChannelId) : Prop :=
  ∃ opened, net.Opens net' opened ∧
    t'.held ++ retired ~ t.held ++ List.range' net.openedCount opened.length

theorem Balances.of_same (hs : net.SameChannels net') (hp : t'.held ++ retired ~ t.held) :
    Balances t net t' net' retired :=
  ⟨[], hs.opens, by simpa using hp⟩

/-- An operation that leaves every node its channel. -/
theorem Balances.of_held (hs : net.SameChannels net') (hp : t'.held = t.held) : Balances t net t' net' [] :=
  .of_same hs (by rw [List.append_nil, hp])

theorem Settled.balances_lease (h : t.Settled) (hl : Leases t net t' net') : Balances t net t' net' [] := by
  cases hl with
  | same turn eq channels =>
    subst eq
    exact .of_held channels rfl
  | opens turn n mem idle eq channels =>
    subst eq
    obtain ⟨before, after, heq, hreplace⟩ := h.replace_split mem (m := { n with channel := some net.openedCount }) rfl
    refine ⟨_, channels, ?_⟩
    have hafter : (Topology.replace { n with channel := some net.openedCount } t.nodes).filterMap (·.channel) =
        before.filterMap (·.channel) ++ net.openedCount :: after.filterMap (·.channel) := by
      simp [hreplace]
    have hbefore : t.held = before.filterMap (·.channel) ++ after.filterMap (·.channel) := by
      simp [held, heq, idle]
    rw [held, hafter, hbefore, List.append_nil]
    exact List.perm_middle.trans (List.perm_append_singleton _ _).symm

theorem Fails.balances (h : Fails t net retired t' net') : Balances t net t' net' retired := by
  cases h with
  | unknown eq none same =>
    subst eq none
    exact .of_held same rfl
  | benched before after n health nodes few eq none same =>
    subst eq none
    exact .of_held same (held_congr (by simp [nodes]))
  | removed before after n nodes eq channel same =>
    subst eq channel
    refine .of_same same ?_
    have hheld : t.held = before.filterMap (·.channel) ++ (n.channel.toList ++ after.filterMap (·.channel)) := by
      rw [held, nodes, List.filterMap_append, List.filterMap_cons]
      cases n.channel <;> rfl
    have hrest : Topology.held { t with nodes := before ++ after } =
        before.filterMap (·.channel) ++ after.filterMap (·.channel) := List.filterMap_append
    rw [hheld, hrest, List.append_assoc]
    exact List.perm_append_comm.append_left _

/-- A switch hands back the channels of all nodes, or changes nothing. -/
theorem balances_switch {switched : Option (List ChannelId × Topology κ)} (net : LocalNet)
    (h : ∀ r, switched = some r → r.2.held = [] ∧ r.1 = t.held) :
    Balances t net ((switched.map (·.2)).getD t) net ((switched.map (·.1)).getD []) := by
  cases switched with
  | none => exact .of_held (.refl net) rfl
  | some r =>
    obtain ⟨hheld, hretired⟩ := h r rfl
    refine .of_same (.refl net) ?_
    simp [hheld, hretired]

theorem balances_replace [DecidableEq κ] [Identity κ] (t : Topology κ) (network : List (Endpoint × κ))
    (net : LocalNet) :
    Balances t net (t.replaceNetwork network net.now).2.2 net (t.replaceNetwork network net.now).2.1 := by
  refine .of_same (.refl net) ?_
  have hgone : (t.replaceNetwork network net.now).2.1 =
      (t.nodes.filter fun n => !isWanted (desired t.secure network) n).filterMap (·.channel) := by
    simp only [replaceNetwork, List.partition_eq_filter_filter]
    rfl
  rw [hgone, replace_eq, held_entered, held, ← List.filterMap_append]
  exact (List.filter_append_perm (isWanted (desired t.secure network)) t.nodes).filterMap _

/-- No operation loses a channel. -/
theorem Settled.balances [DecidableEq κ] [Identity κ] (h : t.Settled) (op : Op κ) (net : LocalNet) :
    Balances t net (op.after net t) (op.opens net t) (op.retires net t) := by
  cases op with
  | replace network => exact balances_replace t network net
  | security secure =>
    refine balances_switch net ?_
    intro r hr
    unfold switchSecurity at hr
    split at hr <;> cases hr
    exact held_moved { t with secure } _ _ _
  | verify wanted =>
    refine balances_switch net ?_
    intro r hr
    unfold switchVerify at hr
    split at hr <;> cases hr
    exact held_moved { t with verify := wanted } _ _ _
  | lease id => exact h.balances_lease (h.leases id net)
  | leaseNext => exact h.balances_lease (h.leases_next net)
  | succeed endpoint => exact .of_held (.refl net) (held_congr (map_updateAt _ (by intro n; rfl) _ _))
  | fail endpoint => exact (fails t endpoint net).balances
  | clear => exact .of_same (.refl net) (.refl _)
  | maxNodes count => exact .of_held (.refl net) rfl
  | ledger known => exact .of_held (.refl net) rfl
  | book fetched => exact .of_held (net.same_report _) (held_congr (by simp [Op.after, applyBook]))

/-- Every channel that was opened is held or was handed back, once. Those that were handed back are closed, and were
told so as often as they were handed back. -/
structure Accounted (t : Topology κ) (net : LocalNet) (closings : List ChannelId) : Prop where
  perm : t.held ++ closings ~ List.range net.openedCount
  told : ∀ id < net.openedCount, net.timesClosed id = closings.count id
  closed : ∀ id, net.isClosed id = true ↔ id ∈ closings
  prompt : net.slowToClose = []

theorem Accounted.of_same (h : Accounted t net closings) (hs : net.SameChannels net') : Accounted t net' closings := by
  refine ⟨?_, ?_, ?_, hs.slow.trans h.prompt⟩
  · rw [hs.opens.openedCount]
    exact h.perm
  · intro id hid
    rw [hs.opens.openedCount] at hid
    rw [hs.opens.timesClosed]
    exact h.told id hid
  · intro id
    rw [hs.opens.isClosed]
    exact h.closed id

/-- Channels that are opened and handed back stay accounted for once those are closed that were handed back. -/
theorem Accounted.step (h : Accounted t net closings) (hb : Balances t net t' net' retired) :
    Accounted t' (retired.foldl LocalNet.closeChannel net') (closings ++ retired) := by
  obtain ⟨opened, hopens, hperm⟩ := hb
  have hprompt : net'.slowToClose = [] := hopens.slow.trans h.prompt
  have hrange : List.range (net.openedCount + opened.length) =
      List.range net.openedCount ++ List.range' net.openedCount opened.length := by
    rw [List.range_eq_range', List.range_eq_range', ← List.range'_append_1, Nat.zero_add]
  have hswap (a b c : List ChannelId) : a ++ b ++ c ~ a ++ c ++ b := by
    rw [List.append_assoc, List.append_assoc]
    exact List.perm_append_comm.append_left a
  have hall : t'.held ++ (closings ++ retired) ~ List.range (net.openedCount + opened.length) := by
    rw [hrange, ← List.append_assoc]
    calc t'.held ++ closings ++ retired
      _ ~ t'.held ++ retired ++ closings := hswap _ _ _
      _ ~ t.held ++ List.range' net.openedCount opened.length ++ closings := hperm.append_right _
      _ ~ t.held ++ closings ++ List.range' net.openedCount opened.length := hswap _ _ _
      _ ~ List.range net.openedCount ++ List.range' net.openedCount opened.length := h.perm.append_right _
  refine ⟨?_, ?_, ?_, ?_⟩
  · rw [LocalNet.closeAll_openedCount, hopens.openedCount]
    exact hall
  · intro id hid
    rw [LocalNet.closeAll_openedCount] at hid
    rw [LocalNet.timesClosed_closeAll _ hid, hopens.timesClosed, List.count_append, Nat.add_right_cancel_iff]
    rcases Nat.lt_or_ge id net.openedCount with hold | hnew
    · exact h.told id hold
    · -- of a channel that was opened just now nobody has heard before
      have hunknown : id ∉ closings := fun hmem =>
        Nat.not_lt_of_le hnew (List.mem_range.mp (h.perm.mem_iff.mp (by simp [hmem])))
      rw [List.count_eq_zero.mpr hunknown, LocalNet.timesClosed, List.getElem?_eq_none hnew]
      rfl
  · intro id
    rw [LocalNet.isClosed_closeAll hprompt, hopens.isClosed, h.closed, List.mem_append]
    refine or_congr_right (and_iff_right_of_imp ?_)
    intro hid
    rw [hopens.openedCount]
    exact List.mem_range.mp (hall.mem_iff.mp (by simp [hid]))
  · rw [LocalNet.closeAll_slow]
    exact hprompt

/-- A channel is held by one node and open, or it was closed once and is held by none. -/
theorem Accounted.each (h : Accounted t net closings) {id : ChannelId} (hid : id < net.openedCount) :
    t.holders id = 1 ∧ closings.count id = 0 ∧ net.timesClosed id = 0 ∧ net.isClosed id = false ∨
    t.holders id = 0 ∧ closings.count id = 1 ∧ net.timesClosed id = 1 ∧ net.isClosed id = true := by
  have hnodup : (List.range net.openedCount).Nodup := List.nodup_range
  have honce : t.holders id + closings.count id = 1 := by
    rw [← count_held, ← List.count_append, h.perm.count_eq]
    exact List.count_eq_one_of_mem hnodup (List.mem_range.mpr hid)
  rcases Nat.eq_zero_or_pos (closings.count id) with hzero | hpos
  · refine .inl ⟨by omega, hzero, (h.told id hid).trans hzero, ?_⟩
    rw [Bool.eq_false_iff, ne_eq, h.closed]
    exact List.count_eq_zero.mp hzero
  · have hone : closings.count id = 1 := by omega
    exact .inr ⟨by omega, hone, (h.told id hid).trans hone, (h.closed id).mpr (List.count_pos_iff.mp hpos)⟩

/-- Of the channels that were opened, those that are not closed are held. -/
theorem Accounted.balance (h : Accounted t net closings) :
    net.openedCount = net.closedCount + t.nodes.countP (·.channel.isSome) := by
  have hlength : t.held.length + closings.length = net.openedCount := by
    rw [← List.length_append, h.perm.length_eq, List.length_range]
  have hnodup : (t.held ++ closings).Nodup := h.perm.nodup_iff.mpr List.nodup_range
  have hheld : t.held.countP net.isClosed = 0 := by
    rw [List.countP_eq_zero]
    intro id hid hclosed
    exact List.disjoint_of_nodup_append hnodup hid ((h.closed id).mp hclosed)
  have hclosings : closings.countP net.isClosed = closings.length := by
    rw [List.countP_eq_length]
    intro id hid
    exact (h.closed id).mpr hid
  rw [LocalNet.closedCount_eq, ← h.perm.countP_eq, List.countP_append, hheld, hclosings, ← length_held]
  omega

end Topology

namespace Place

variable {κ : Type} [DecidableEq κ] [Identity κ] (place : Place κ)

theorem accounted (o : TopologyOptions) {w : World} (hw : w.net.slowToClose = []) (moves : List (Topology.Move κ)) :
    Topology.Accounted (place.get (place.course o w moves)) (place.course o w moves).net
      (place.closings o w moves) := by
  induction moves with
  | nil =>
    have ht : place.get (place.founded o w) = .empty o := place.get_put _ _
    have hn : (place.founded o w).net = { w.net with channels := [] } := place.net_put _ _
    rw [course, closings, ht, hn]
    exact ⟨.refl _, fun _ hid => absurd hid (Nat.not_lt_zero _), by simp [LocalNet.isClosed], hw⟩
  | cons move past ih =>
    cases move with
    | op op =>
      obtain ⟨htopology, hchannels⟩ := Topology.carried_out place op (place.course o w past)
      have hstep := ih.step ((place.settled_course o w past).balances op (place.course o w past).net)
      rw [course, closings, make, htopology]
      exact hstep.of_same hchannels
    | elsewhere f =>
      have hu := place.untouched_elsewhere f (place.course o w past)
      rw [course, closings, make, hu.topology]
      exact ih.of_same hu.channels

/-- However operations on a topology follow one another, each channel that was ever opened is held by exactly one node
and open and was never told to close, or was handed back and told to close exactly once and is held by none. So as many
channels are open as nodes hold one, and none is once the topology is closed. -/
theorem channels_accounted (o : TopologyOptions) (w : World) (hw : w.net.slowToClose = [])
    (moves : List (Topology.Move κ)) :
    let net := (place.course o w moves).net
    let t := place.get (place.course o w moves)
    (∀ id < net.openedCount,
      t.holders id = 1 ∧ (place.closings o w moves).count id = 0 ∧ net.timesClosed id = 0 ∧ net.isClosed id = false ∨
      t.holders id = 0 ∧ (place.closings o w moves).count id = 1 ∧ net.timesClosed id = 1 ∧ net.isClosed id = true) ∧
    net.openedCount = net.closedCount + t.nodes.countP (·.channel.isSome) ∧
    (place.course o w (.op .clear :: moves)).net.openedCount =
      (place.course o w (.op .clear :: moves)).net.closedCount := by
  refine ⟨fun id hid => (place.accounted o hw moves).each hid, (place.accounted o hw moves).balance, ?_⟩
  have hnodes : (place.get (place.course o w (.op .clear :: moves))).nodes = [] := by
    rw [course, make, (Topology.carried_out place .clear _).topology]
    rfl
  have hbalance := (place.accounted o hw (.op .clear :: moves)).balance
  rw [hnodes] at hbalance
  exact hbalance

/-- The node that was leased holds the one channel that was opened, until the topology is closed. -/
theorem channels_accounted_leased : blank.net.slowToClose = [] ∧
    (consensus.course {} blank leased).net.openedCount = 1 ∧
    (consensus.get (consensus.course {} blank leased)).holders 0 = 1 ∧
    (consensus.course {} blank (.op .clear :: leased)).net.closedCount = 1 ∧
    (consensus.course {} blank (.op .clear :: leased)).net.timesClosed 0 = 1 := by
  obtain ⟨heach, -, hclear⟩ := consensus.channels_accounted {} blank rfl leased
  have hopened : (consensus.course {} blank leased).net.openedCount = 1 := by cbv
  have hcleared : (consensus.course {} blank (.op .clear :: leased)).net.openedCount = 1 := by cbv
  have hopen : (consensus.course {} blank leased).net.isClosed 0 = false := by cbv
  have hclosed : (consensus.course {} blank (.op .clear :: leased)).net.isClosed 0 = true := by cbv
  refine ⟨rfl, hopened, ?_, hclear.symm.trans hcleared, ?_⟩
  · rcases heach 0 (hopened ▸ Nat.one_pos) with ⟨hheld, -⟩ | ⟨-, -, -, hgone⟩
    · exact hheld
    · rw [hopen] at hgone
      cases hgone
  · obtain ⟨heach, -⟩ := consensus.channels_accounted {} blank rfl (.op .clear :: leased)
    rcases heach 0 (hcleared ▸ Nat.one_pos) with ⟨-, -, -, hleft⟩ | ⟨-, -, htold, -⟩
    · rw [hclosed] at hleft
      cases hleft
    · exact htold

end Place

end LedgerNet
