import Mathlib
import LedgerNet.Proofs.Network.Refresh
import LedgerNet.Proofs.Topology.Accounted
import LedgerNet.Proofs.Topology.Suited

/-!
By which certificate hash a channel judges its peer: the one that was on record for its node when it was opened. An
address book that comes later changes the record, and leaves the channel as it is.
-/
namespace LedgerNet

/-- A channel was opened to judge its peer by a hash, or by none. -/
def LocalNet.Enforces (net : LocalNet) (id : ChannelId) (hash : Option String) : Prop :=
  net.channels[id]?.map (·.options.hash) = some hash

instance (net : LocalNet) (id : ChannelId) (hash : Option String) : Decidable (net.Enforces id hash) :=
  inferInstanceAs (Decidable (_ = _))

theorem LocalNet.Enforces.unique {net : LocalNet} {id : ChannelId} {hash hash' : Option String}
    (h : net.Enforces id hash) : net.Enforces id hash' ↔ hash = hash' := by
  rw [LocalNet.Enforces, h, Option.some.injEq]

/-- A channel judges its peer as it was opened, whatever becomes of it. -/
theorem LocalNet.Keeps.enforces {net net' : LocalNet} (hk : net.Keeps net') {id : ChannelId} {hash : Option String}
    (h : net.Enforces id hash) : net'.Enforces id hash := by
  obtain ⟨c, hc, rfl⟩ := Option.map_eq_some_iff.mp h
  obtain ⟨c', hc', -, ho⟩ := hk id c hc
  rw [LocalNet.Enforces, hc', Option.map_some, ho]

theorem LocalNet.Opens.enforces {net net' : LocalNet} {endpoint : Endpoint} {options : ChannelOptions}
    (h : net.Opens net' [{ endpoint, options }]) : net'.Enforces net.openedCount options.hash := by
  rw [LocalNet.Enforces, h.channels, LocalNet.openedCount, List.getElem?_concat_length, Option.map_some]

/-- Whoever is reached over TLS presents no certificate, or one that the channel accepts. -/
theorem LocalNet.accepted {net : LocalNet} {id : ChannelId} {c : Channel} {registration : Registration}
    {certificate : Text.Bytes} (hc : net.channels[id]? = some c) (htls : c.options.tls = true)
    (hr : net.reach id = .ok registration) (hp : registration.service.certificate? = some certificate) :
    c.options.accepts certificate = true := by
  simp only [LocalNet.reach, hc] at hr
  split at hr
  · cases hr
  · split at hr
    · cases hr
    · split at hr
      · rename_i hnone
        cases hr
        rw [hnone] at hp
        cases hp
      · rename_i presented hpresented
        split at hr
        · cases hr
        · rename_i htrusted
          cases hr
          rw [hpresented] at hp
          cases hp
          simpa [htls] using htrusted

namespace Topology

variable {κ : Type}

/-- The channel of each node, or that it has none, under the identity of the node. -/
def holds (t : Topology κ) : List (κ × Option ChannelId) := t.nodes.map fun n => (n.id, n.channel)

variable [DecidableEq κ]

/-- The certificate hash on record for an identity. -/
def hash? (t : Topology κ) (id : κ) : Option String := (t.entryOf? id).bind (·.certificateHash)

variable [Identity κ]

/-- What an operation leases. -/
def Op.leased? (net : LocalNet) : {κ : Type} → [DecidableEq κ] → [Identity κ] → Op κ → Topology κ → Option (Lease κ)
  | _, _, _, .lease id, t => (t.lease id net).1
  | _, _, _, .leaseNext, t => (t.leaseNext net).1
  | _, _, _, _, _ => none

/-- A lease is of one of the nodes, however it was chosen. -/
theorem leased {t : Topology κ} {net : LocalNet} {op : Op κ} {lease : Lease κ} (h : op.leased? net t = some lease) :
    ∃ turn, ∃ n ∈ t.nodes, (lease, op.after net t, op.opens net t) = { t with turn }.leaseNode n net := by
  cases op with
  | lease id =>
    simp only [Op.leased?, Op.after, Op.opens, Topology.lease] at h ⊢
    cases hb : t.bestOf? id with
    | none => simp [hb] at h
    | some n =>
      simp only [hb, Option.some.injEq] at h
      subst h
      exact ⟨t.turn, n, (List.mem_filter.mp (best_mem hb)).1, rfl⟩
  | leaseNext =>
    simp only [Op.leased?, Op.after, Op.opens, Topology.leaseNext] at h ⊢
    cases hp : t.nextPlace? net.now with
    | none => simp [hp] at h
    | some place =>
      cases hn : t.nodes[place]? with
      | none => simp [hp, hn] at h
      | some n =>
        simp only [hp, hn, Option.some.injEq] at h
        subst h
        exact ⟨(place + 1) % t.nodes.length, n, List.mem_of_getElem? hn, by simp only [hn]⟩
  | _ => cases h

omit [Identity κ] in
/-- Nodes that are entered have no channel. -/
theorem holds_entered (now : Instant) (pairs : List (Endpoint × κ)) (t : Topology κ) :
    (pairs.foldl (fun t pair => t.enter now pair) t).holds = t.holds ++ pairs.map fun pair => (pair.2, none) := by
  induction pairs generalizing t with
  | nil => simp
  | cons pair rest ih =>
    rw [List.foldl_cons, ih]
    simp [holds, enter]

variable {t : Topology κ} {net : LocalNet} {id : κ} {c : ChannelId}

omit [DecidableEq κ] [Identity κ] in
theorem holds_switched {switched : Option (List ChannelId × Topology κ)}
    (hs : ∀ r, switched = some r → ∀ p ∈ r.2.holds, p.2 = none)
    (h : (id, some c) ∈ ((switched.map (·.2)).getD t).holds) : (id, some c) ∈ t.holds := by
  cases switched with
  | none => exact h
  | some r => cases hs r rfl _ h

omit [DecidableEq κ] [Identity κ] in
theorem holds_moved (t : Topology κ) (endpoint : Endpoint → Endpoint) (verify : Node κ → Bool) (now : Instant) :
    ∀ p ∈ (t.moveAll endpoint verify now).2.holds, p.2 = none := by
  intro p hp
  simp only [holds, moveAll, List.map_map, List.mem_map] at hp
  obtain ⟨n, -, rfl⟩ := hp
  rfl

/-- A channel that a node has after an operation its identity had before, or the operation opened it for a node of that
identity. -/
theorem Settled.holds_op (hs : t.Settled) (op : Op κ) (h : (id, some c) ∈ (op.after net t).holds) :
    (id, some c) ∈ t.holds ∨
      ∃ n ∈ t.nodes, n.id = id ∧ c = net.openedCount ∧
        net.Opens (op.opens net t) [n.newChannel] := by
  have hleases {t' : Topology κ} {net' : LocalNet} (hl : Leases t net t' net') (h : (id, some c) ∈ t'.holds) :
      (id, some c) ∈ t.holds ∨
        ∃ n ∈ t.nodes, n.id = id ∧ c = net.openedCount ∧ net.Opens net' [n.newChannel] := by
    cases hl with
    | same turn eq channels =>
      subst eq
      exact .inl h
    | opens turn n mem idle eq channels =>
      subst eq
      obtain ⟨m', hm', heq⟩ := List.mem_map.mp h
      obtain ⟨m, hm, rfl⟩ := List.mem_map.mp hm'
      split at heq
      · cases heq
        exact .inr ⟨n, mem, rfl, rfl, channels⟩
      · exact .inl (List.mem_map.mpr ⟨m, hm, heq⟩)
  cases op with
  | replace network =>
    simp only [Op.after, replace_eq, holds_entered] at h
    rcases List.mem_append.mp h with hkept | hnew
    · exact .inl ((List.filter_sublist.map _).subset hkept)
    · obtain ⟨pair, -, heq⟩ := List.mem_map.mp hnew
      cases heq
  | security secure =>
    refine .inl (holds_switched ?_ h)
    intro r hr
    unfold switchSecurity at hr
    split at hr <;> cases hr
    exact holds_moved _ _ _ _
  | verify wanted =>
    refine .inl (holds_switched ?_ h)
    intro r hr
    unfold switchVerify at hr
    split at hr <;> cases hr
    exact holds_moved _ _ _ _
  | lease id => exact hleases (hs.leases id net) h
  | leaseNext => exact hleases (hs.leases_next net) h
  | succeed endpoint =>
    have hsame : ((Op.succeed endpoint).after net t).holds = t.holds := map_updateAt _ (by intro n; rfl) _ _
    exact .inl (hsame ▸ h)
  | fail endpoint =>
    refine .inl ?_
    cases fails t endpoint net with
    | unknown eq none same => exact eq ▸ h
    | benched before after n health nodes few eq none same =>
      have hsame : ((Op.fail endpoint).after net t).holds = t.holds := by simp [Op.after, holds, eq, nodes]
      exact hsame ▸ h
    | removed before after n nodes eq channel same =>
      simp only [Op.after, eq, holds, List.map_append, List.mem_append] at h
      simp only [holds, nodes, List.map_append, List.map_cons, List.mem_append, List.mem_cons]
      exact h.imp_right .inr
  | clear => cases h
  | maxNodes count => exact .inl h
  | ledger known => exact .inl h
  | book fetched =>
    rename_i decides _
    obtain rfl : decides = instDecidableEqEntityId := Subsingleton.elim _ _
    have hsame : ((Op.book fetched).after net t).holds = t.holds := by simp [Op.after, applyBook, holds]
    exact .inl (hsame ▸ h)

/-- Operations lead from one state of a topology and of the network to another, while channels are opened and closed
beside it. -/
inductive Leads (t : Topology κ) (net : LocalNet) : Topology κ → LocalNet → Prop
  | refl : Leads t net t net
  | op {t' : Topology κ} {net' : LocalNet} (op : Op κ) (h : Leads t net t' net') :
      Leads t net (op.after net' t') (op.opens net' t')
  | beside {t' : Topology κ} {net' net'' : LocalNet} (h : Leads t net t' net') (keeps : net'.Keeps net'') :
      Leads t net t' net''

/-- An operation on a topology opened a channel for a node, to judge its peer by what was on record then. -/
structure Opened (o : TopologyOptions) (id : κ) (c : ChannelId) (t : Topology κ) (net : LocalNet) (op : Op κ) :
    Prop where
  reachable : Reachable o t net
  next : net.openedCount = c
  opens : (op.opens net t).Enforces c (t.hash? id)

variable {o : TopologyOptions}

/-- Every channel that a node has was opened for its identity, and still judges its peer by what was on record then. -/
theorem Reachable.opened (h : Reachable o t net) (hc : (id, some c) ∈ t.holds) :
    ∃ t₀ net₀ op, Opened o id c t₀ net₀ op ∧ Leads (op.after net₀ t₀) (op.opens net₀ t₀) t net ∧
      net.Enforces c (t₀.hash? id) := by
  induction h with
  | new net => cases hc
  | @op t net op h ih =>
    rcases h.settled.holds_op op hc with hold | ⟨n, hn, rfl, rfl, hopens⟩
    · obtain ⟨t₀, net₀, first, hopened, hleads, henforces⟩ := ih hold
      obtain ⟨opened, hkeeps, -⟩ := h.settled.balances op net
      exact ⟨t₀, net₀, first, hopened, hleads.op op, hkeeps.keeps.enforces henforces⟩
    · have hentry := ((nodes_suit h).2 n hn).entry
      have henforces := hopens.enforces
      rw [Node.channelOptions, hentry] at henforces
      exact ⟨t, net, op, ⟨h, rfl, henforces⟩, .refl, henforces⟩
  | beside h keeps ih =>
    obtain ⟨t₀, net₀, first, hopened, hleads, henforces⟩ := ih hc
    exact ⟨t₀, net₀, first, hopened, hleads.beside keeps, keeps.enforces henforces⟩

omit [DecidableEq κ] [Identity κ] in
/-- A node that is connected had its channel before, or it was opened. -/
theorem connect_ok {n : Node κ} (h : (n.connect net).1 = .ok c) :
    (n.connect net).2.1 = { n with channel := some c } ∧
    (n.channel = some c ∨
      c = net.openedCount ∧ net.Opens (n.connect net).2.2 [n.newChannel]) := by
  unfold Node.connect at h ⊢
  split at h
  · rename_i held hheld
    cases h
    exact ⟨by rw [← hheld], .inl hheld⟩
  · rcases net.openChannel_cases n.endpoint n.channelOptions with ⟨status, net', heq, -⟩ | ⟨net', heq, hopens⟩
    · rw [heq] at h
      cases h
    · rw [heq] at h ⊢
      cases h
      exact ⟨rfl, .inr ⟨rfl, hopens.channels, hopens.fresh, hopens.slow⟩⟩

/-- What a lease gives: a node's own channel, or one that is opened for it. -/
theorem leased_ok {op : Op κ} {lease : Lease κ} (hl : op.leased? net t = some lease) (hc : lease.channel = .ok c) :
    ∃ n ∈ t.nodes, n.id = lease.id ∧ n.endpoint = lease.endpoint ∧
      { n with channel := some c } ∈ (op.after net t).nodes ∧
      (n.channel = some c ∨
        c = net.openedCount ∧ net.Opens (op.opens net t) [n.newChannel]) ∧
      (op.after net t).verify = t.verify := by
  obtain ⟨turn, n, hn, heq⟩ := leased hl
  obtain ⟨rfl, hafter, hopens⟩ := by simpa only [Prod.ext_iff] using heq
  have hok : (n.connect net).1 = .ok c := hc
  obtain ⟨hnode, hchannel⟩ := connect_ok hok
  have hmem : (n.connect net).2.1 ∈ replace (n.connect net).2.1 t.nodes :=
    List.mem_map.mpr ⟨n, hn, if_pos (by rw [hnode, beq_self_eq_true])⟩
  rw [hafter, hopens]
  refine ⟨n, hn, rfl, rfl, ?_, hchannel, rfl⟩
  rw [← hnode]
  exact hmem

end Topology

section Refresh

variable {o : TopologyOptions} {w w' : World}

theorem World.Tells.reachable (ht : w.Tells w') (h : Topology.Reachable o w.consensus w.net) :
    Topology.Reachable o w'.consensus w'.net := by
  cases ht with
  | nothing => exact h
  | event event => exact h.beside (w.net.same_report event).opens.keeps

/-- Each step of a refresh leads to a reachable state, whatever else was done between the steps. -/
theorem RefreshStep.reachable {phase phase' : RefreshPhase} (hs : RefreshStep w phase phase' w')
    (h : Topology.Reachable o w.consensus w.net) : Topology.Reachable o w'.consensus w'.net := by
  cases hs with
  | begins => exact h.beside (LocalNet.SameChannels.opens ⟨rfl, rfl⟩).keeps
  | breaks _ ht => exact ht.reachable h
  | fails why _ ht => exact ht.reachable h
  | refuses book _ _ ht => exact ht.reachable h
  | takes book _ _ hreplace hclose =>
    cases hreplace
    cases hclose
    exact (h.op (.replace book.toNetwork)).beside (LocalNet.keeps_closeAll _ _)
  | @applies c change book reported _ _ _ hr hbook ht =>
    have hclosed := h.beside (LocalNet.same_endClose w.net c).opens.keeps
    have hreported := hr.reachable hclosed
    cases hbook
    exact ht.reachable (hreported.op (.book book))
  | rests => exact h

end Refresh

namespace Topology

variable {o : TopologyOptions} {t : Topology AccountId} {net : LocalNet} {op : Op AccountId}
  {lease : Lease AccountId} {c : ChannelId}

/-- A channel that is leased judges its peer by the hash that was on record when it was opened, and so by the one that
is on record now exactly when the two are the same: it does when it is opened for the lease. Where it does, whoever is
reached over TLS presents no certificate that the record rejects. The steps of a refresh are operations among others. -/
theorem leased_as_recorded (h : Reachable o t net) (hl : op.leased? net t = some lease)
    (hc : lease.channel = .ok c) :
    (∃ t₀ net₀ first, Opened o lease.id c t₀ net₀ first ∧
      Leads (first.after net₀ t₀) (first.opens net₀ t₀) (op.after net t) (op.opens net t) ∧
      ((op.opens net t).Enforces c (t.hash? lease.id) ↔ t₀.hash? lease.id = t.hash? lease.id)) ∧
    (net.openedCount ≤ c → (op.opens net t).Enforces c (t.hash? lease.id)) ∧
    ((op.opens net t).Enforces c (t.hash? lease.id) → lease.endpoint.isSecure = true →
      ∀ registration certificate, (op.opens net t).reach c = .ok registration →
        registration.service.certificate? = some certificate →
        (⟨true, t.verify, t.hash? lease.id⟩ : ChannelOptions).accepts certificate = true) ∧
    ∀ (run : RefreshRun) (w : World), Reachable o w.consensus w.net →
      Reachable o (run.step w).2.consensus (run.step w).2.net := by
  obtain ⟨n, hn, hid, hendpoint, hmem, hchannel, hverify⟩ := leased_ok hl hc
  have hafter := h.op op
  obtain ⟨ch, hch, hat, htls, hchecks⟩ := ((nodes_suit hafter).2 _ hmem).channel c rfl
  refine ⟨?_, ?_, ?_, fun run w => (run.step_cases w).reachable⟩
  · obtain ⟨t₀, net₀, first, hopened, hleads, henforces⟩ := hafter.opened (List.mem_map.mpr ⟨_, hmem, rfl⟩)
    exact ⟨t₀, net₀, first, hid ▸ hopened, hleads, hid ▸ henforces.unique⟩
  · intro hnew
    obtain ⟨-, hentry, hheld, -⟩ := (nodes_suit h).2 n hn
    rcases hchannel with hold | ⟨rfl, hopens⟩
    · obtain ⟨old, hin, -⟩ := hheld c hold
      have hlt : c < net.openedCount := (List.getElem?_eq_some_iff.mp hin).1
      exact absurd hlt (Nat.not_lt.mpr hnew)
    · have henforces := hopens.enforces
      rw [Node.channelOptions, hentry] at henforces
      exact hid ▸ henforces
  · intro henforces hsecure registration certificate hreach hpresents
    have hhash : ch.options.hash = t.hash? lease.id := by simpa [LocalNet.Enforces, hch] using henforces
    have hoptions : ch.options = ⟨true, t.verify, t.hash? lease.id⟩ := by
      rw [← hhash, ← hverify, ← hchecks, ← hsecure, ← hendpoint, ← htls]
    exact hoptions ▸ LocalNet.accepted hch (by rw [hoptions]) hreach hpresents

/-- A node is leased again. Its channel is the one that was opened first, when no hash was on record, as none is
now. -/
theorem leased_as_recorded_again :
    let w := Place.consensus.course {} Place.blank Place.leased
    ∃ lease t₀ net₀ first, (Op.lease ⟨0, 0, 3⟩).leased? w.net w.consensus = some lease ∧
      Opened {} lease.id 0 t₀ net₀ first ∧ t₀.hash? lease.id = w.consensus.hash? lease.id := by
  intro w
  have hr := Place.consensus.reachable {} Place.blank Place.leased
  have hl : ((Op.lease ⟨0, 0, 3⟩).leased? w.net w.consensus).map (fun l => (l.id, l.channel)) =
    some (⟨0, 0, 3⟩, .ok 0) := by cbv
  obtain ⟨lease, hl, heq⟩ := Option.map_eq_some_iff.mp hl
  obtain ⟨hid, hc⟩ := Prod.mk.injEq .. ▸ heq
  obtain ⟨⟨t₀, net₀, first, hopened, -, hiff⟩, -⟩ := leased_as_recorded hr hl hc
  have henforces : ((Op.lease ⟨0, 0, 3⟩).opens w.net w.consensus).Enforces 0 none := by
    change _ = _
    cbv
  have hrecord : w.consensus.hash? ⟨0, 0, 3⟩ = none := by cbv
  refine ⟨lease, t₀, net₀, first, hl, hopened, hiff.mp ?_⟩
  rw [hid]
  exact hrecord ▸ henforces

/-- A book comes once the channel is open. -/
def rotated : List (Move AccountId) :=
  .op (.book ⟨[⟨⟨0, 0, 3⟩, [.remote "n" plainPort false], some "ab", ""⟩]⟩) :: Place.leased

/-- A channel that is open when a book comes does not judge its peer by what the book says. -/
theorem not_always_as_recorded :
    ¬ ∀ (o : TopologyOptions) (t : Topology AccountId) (net : LocalNet) (op : Op AccountId) (lease : Lease AccountId)
      (c : ChannelId), Reachable o t net → op.leased? net t = some lease → lease.channel = .ok c →
        (op.opens net t).Enforces c (t.hash? lease.id) := by
  intro hall
  let w := Place.consensus.course {} Place.blank rotated
  have hr := Place.consensus.reachable {} Place.blank rotated
  have hl : ((Op.lease ⟨0, 0, 3⟩).leased? w.net w.consensus).map (fun l => (l.id, l.channel)) =
    some (⟨0, 0, 3⟩, .ok 0) := by cbv
  obtain ⟨lease, hl, heq⟩ := Option.map_eq_some_iff.mp hl
  obtain ⟨hid, hc⟩ := Prod.mk.injEq .. ▸ heq
  have henforces : ((Op.lease ⟨0, 0, 3⟩).opens w.net w.consensus).Enforces 0 none := by
    change _ = _
    cbv
  have hrecord : w.consensus.hash? lease.id = some "ab" := by
    rw [hid]
    cbv
  have hnone : none = some "ab" := hrecord ▸ henforces.unique.mp (hall {} _ _ _ lease 0 hr hl hc)
  cases hnone

end Topology

end LedgerNet
