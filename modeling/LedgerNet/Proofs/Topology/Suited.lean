import Mathlib
import LedgerNet.Proofs.Topology.Running

/-!
What a topology says of its nodes is so. Each node checks certificates as the topology does, has the entry of its
identity in the address book, is connected, if it is, to where it stands now and in the way that is asked for now, and
has not failed so often that it should be gone.
-/
namespace LedgerNet

/-- What a node has from its topology, and the channel that it has in the network. -/
structure Node.Suits {κ : Type} [DecidableEq κ] (n : Node κ) (t : Topology κ) (net : LocalNet) : Prop where
  verify : n.verify = t.verify
  entry : n.entry = t.entryOf? n.id
  channel : ∀ id, n.channel = some id → ∃ c, net.channels[id]? = some c ∧ c.endpoint = n.endpoint ∧
    c.options.tls = n.endpoint.isSecure ∧ c.options.verify = t.verify
  failures : ∀ max, t.maxFailures = some max → 1 ≤ max → n.health.failures < max

/-- Two topologies that ask the same of their nodes. -/
structure Topology.Alike {κ : Type} (t t' : Topology κ) : Prop where
  verify : t'.verify = t.verify
  book : t'.book = t.book
  maxFailures : t'.maxFailures = t.maxFailures

/-- A node still suits while channels are opened and closed. -/
theorem Node.Suits.mono {κ : Type} [DecidableEq κ] {n : Node κ} {t t' : Topology κ} {net net' : LocalNet}
    (h : n.Suits t net) (ha : t.Alike t') (hk : net.Keeps net') : n.Suits t' net' := by
  refine ⟨h.verify.trans ha.verify.symm, ?_, ?_, ?_⟩
  · rw [h.entry, Topology.entryOf?, Topology.entryOf?, ha.book]
  · intro id hid
    obtain ⟨c, hc, hendpoint, htls, hverify⟩ := h.channel id hid
    obtain ⟨c', hc', he, ho⟩ := hk id c hc
    exact ⟨c', hc', he.trans hendpoint, ho ▸ htls, by rw [ho, hverify, ha.verify]⟩
  · intro max hmax
    exact h.failures max (ha.maxFailures ▸ hmax)

namespace Topology

variable {κ : Type} [DecidableEq κ]

/-- Every node suits the topology. -/
def Suited (t : Topology κ) (net : LocalNet) : Prop := ∀ n ∈ t.nodes, n.Suits t net

variable {t t' : Topology κ} {net net' : LocalNet}

/-- Every node was there, or is one that suits. -/
theorem Suited.of_mem (h : t.Suited net) (ha : t.Alike t') (hk : net.Keeps net')
    (hm : ∀ n ∈ t'.nodes, n ∈ t.nodes ∨ n.Suits t' net') : t'.Suited net' := by
  intro n hn
  rcases hm n hn with hold | hnew
  · exact (h n hold).mono ha hk
  · exact hnew

/-- One node takes the place of another. -/
theorem Suited.change_one (h : t.Suited net) (ha : t.Alike t') (hk : net.Keeps net') {before after : List (Node κ)}
    {n m : Node κ} (nodes : t.nodes = before ++ n :: after) (nodes' : t'.nodes = before ++ m :: after)
    (hm : n.Suits t' net' → m.Suits t' net') : t'.Suited net' := by
  refine h.of_mem ha hk ?_
  intro other hother
  rw [nodes'] at hother
  rw [nodes]
  rcases List.mem_append.mp hother with hbefore | hmid
  · exact .inl (List.mem_append_left _ hbefore)
  rcases List.mem_cons.mp hmid with rfl | hafter
  · have hn : n ∈ t.nodes := nodes ▸ List.mem_append_right _ List.mem_cons_self
    exact .inr (hm ((h n hn).mono ha hk))
  · exact .inl (List.mem_append_right _ (List.mem_cons_of_mem _ hafter))

theorem Suited.entered (h : t.Suited net) (now : Instant) (pairs : List (Endpoint × κ)) :
    (pairs.foldl (fun t pair => t.enter now pair) t).Suited net := by
  induction pairs generalizing t with
  | nil => exact h
  | cons pair rest ih =>
    refine ih (h.of_mem ⟨rfl, rfl, rfl⟩ (.refl net) ?_)
    intro n hn
    rcases List.mem_append.mp hn with hold | hnew
    · exact .inl hold
    · obtain rfl := List.mem_singleton.mp hnew
      exact .inr ⟨rfl, rfl, by simp, fun _ _ hmax => hmax⟩

theorem Suited.replace_network [Identity κ] (h : t.Suited net) (network : List (Endpoint × κ)) :
    (t.replaceNetwork network net.now).2.2.Suited net := by
  rw [replace_eq]
  refine Suited.entered ?_ _ _
  refine h.of_mem ⟨rfl, rfl, rfl⟩ (.refl net) ?_
  intro n hn
  exact .inl (List.mem_filter.mp hn).1

/-- A node that is moved has no channel that could be the wrong one. -/
theorem Suited.moved (h : t.Suited net) (endpoint : Endpoint → Endpoint) (now : Instant) {verify : Node κ → Bool}
    (hv : ∀ n ∈ t.nodes, verify n = t'.verify) (hb : t'.book = t.book) (hmax : t'.maxFailures = t.maxFailures)
    (hn : t'.nodes = t.nodes.map fun n => n.moved (endpoint n.endpoint) (verify n) t.backoff now) :
    t'.Suited net := by
  intro n hmem
  rw [hn] at hmem
  obtain ⟨m, hm, rfl⟩ := List.mem_map.mp hmem
  have hs := h m hm
  refine ⟨hv m hm, ?_, by simp [Node.moved], ?_⟩
  · rw [entryOf?, hb]
    exact hs.entry
  · rw [hmax]
    exact hs.failures

/-- A channel is opened as its node and the topology ask for it. -/
theorem Suited.leases (h : t.Suited net) (hl : Leases t net t' net') : t'.Suited net' := by
  cases hl with
  | same turn eq channels =>
    subst eq
    exact h.of_mem ⟨rfl, rfl, rfl⟩ channels.opens.keeps fun n hn => .inl hn
  | opens turn n mem idle eq channels =>
    subst eq
    refine h.of_mem ⟨rfl, rfl, rfl⟩ channels.keeps ?_
    intro m hm
    obtain ⟨old, hold, rfl⟩ := List.mem_map.mp hm
    split
    · have hs := h n mem
      refine .inr ⟨hs.verify, hs.entry, ?_, hs.failures⟩
      intro id hid
      obtain rfl := Option.some.inj hid
      refine ⟨n.newChannel, ?_, rfl, rfl, hs.verify⟩
      rw [channels.channels]
      exact List.getElem?_concat_length
    · exact .inl hold

/-- A node that has failed too often is gone. -/
theorem Suited.fails {retired : List ChannelId} (h : t.Suited net) (hf : Fails t net retired t' net') :
    t'.Suited net' := by
  cases hf with
  | unknown eq none same =>
    subst eq
    exact h.of_mem ⟨rfl, rfl, rfl⟩ same.opens.keeps fun n hn => .inl hn
  | benched before after n health nodes few eq none same =>
    subst eq
    refine h.change_one ⟨rfl, rfl, rfl⟩ same.opens.keeps nodes rfl ?_
    intro hs
    exact ⟨hs.verify, hs.entry, hs.channel, fun max hmax _ => few max hmax⟩
  | removed before after n nodes eq channel same =>
    subst eq
    refine h.of_mem ⟨rfl, rfl, rfl⟩ same.opens.keeps ?_
    intro m hm
    rcases List.mem_append.mp hm with hbefore | hafter
    · exact .inl (nodes ▸ List.mem_append_left _ hbefore)
    · exact .inl (nodes ▸ List.mem_append_right _ (List.mem_cons_of_mem _ hafter))

theorem Suited.succeed (h : t.Suited net) (endpoint : Endpoint) : (t.markSuccess endpoint net.now).Suited net := by
  unfold markSuccess
  cases hn : t.nodes.find? (·.endpoint == endpoint) with
  | none =>
    rw [updateAt_none hn]
    exact h
  | some n =>
    obtain ⟨before, after, nodes, hupdate, -⟩ := nodeAt_split hn
    rw [hupdate]
    refine h.change_one ⟨rfl, rfl, rfl⟩ (.refl net) nodes rfl ?_
    intro hs
    exact ⟨hs.verify, hs.entry, hs.channel, fun _ _ hmax => hmax⟩

/-- A switch moves every node, or changes nothing. -/
theorem Suited.switch (h : t.Suited net) {switched : Option (List ChannelId × Topology κ)}
    (hs : ∀ r, switched = some r → r.2.Suited net) : ((switched.map (·.2)).getD t).Suited net := by
  cases switched with
  | none => exact h
  | some r => exact hs r rfl

theorem lookup_putEntry (id id' : κ) (entry : AddressBookEntry) (book : List (κ × AddressBookEntry)) :
    (putEntry id entry book).lookup id' = if id' = id then some entry else book.lookup id' := by
  induction book with
  | nil =>
    by_cases he : id' = id
    · simp [putEntry, he]
    · simp [putEntry, List.lookup_cons, he, beq_eq_false_iff_ne.mpr he]
  | cons first rest ih =>
    obtain ⟨key, known⟩ := first
    by_cases hk : key = id
    · subst hk
      by_cases he : id' = key
      · simp [putEntry, he]
      · simp [putEntry, List.lookup_cons, he, beq_eq_false_iff_ne.mpr he]
    · by_cases he : id' = key
      · simp [putEntry, hk, he]
      · simp [putEntry, List.lookup_cons, hk, beq_eq_false_iff_ne.mpr he, ih]

/-- An address book forgets no account. -/
theorem lookup_recorded {book : List (AccountId × AddressBookEntry)} {id : AccountId} (entries : List AddressBookEntry)
    (h : (entries.foldl recordEntry book).lookup id = none) : book.lookup id = none := by
  induction entries generalizing book with
  | nil => exact h
  | cons entry rest ih =>
    have hlookup := ih h
    unfold recordEntry at hlookup
    rw [lookup_putEntry] at hlookup
    split at hlookup
    · cases hlookup
    · exact hlookup

/-- A node whose account the book does not know had no entry before either. -/
theorem entry_recorded {book : List (AccountId × AddressBookEntry)} {n : Node AccountId}
    (entries : List AddressBookEntry) (h : n.entry = book.lookup n.id) :
    ((entries.foldl recordEntry book).lookup n.id).or n.entry = (entries.foldl recordEntry book).lookup n.id := by
  cases hl : (entries.foldl recordEntry book).lookup n.id with
  | none => exact h.trans (lookup_recorded _ hl)
  | some entry => rfl

theorem Suited.book {t : Topology AccountId} (h : t.Suited net) (fetched : AddressBook) :
    (t.applyBook fetched net).1.Suited (t.applyBook fetched net).2 := by
  intro n hn
  obtain ⟨m, hm, rfl⟩ := List.mem_map.mp hn
  have hs := h m hm
  exact ⟨hs.verify, entry_recorded _ hs.entry, hs.channel, hs.failures⟩

/-- Every operation leaves every node as the topology asks. -/
theorem Suited.after_op [Identity κ] (h : t.Suited net) (hs : t.Settled) (op : Op κ) :
    (op.after net t).Suited (op.opens net t) := by
  cases op with
  | replace network => exact h.replace_network network
  | security secure =>
    refine h.switch ?_
    intro r hr
    unfold switchSecurity at hr
    split at hr <;> cases hr
    exact h.moved (·.withSecurity secure) net.now (fun n hn => (h n hn).verify) rfl rfl rfl
  | verify wanted =>
    refine h.switch ?_
    intro r hr
    unfold switchVerify at hr
    split at hr <;> cases hr
    exact h.moved id net.now (fun _ _ => rfl) rfl rfl rfl
  | lease id => exact h.leases (hs.leases id net)
  | leaseNext => exact h.leases (hs.leases_next net)
  | succeed endpoint => exact h.succeed endpoint
  | fail endpoint => exact h.fails (Topology.fails t endpoint net)
  | clear => exact fun n hn => (List.not_mem_nil hn).elim
  | maxNodes count => exact h.of_mem ⟨rfl, rfl, rfl⟩ (.refl net) fun n hn => .inl hn
  | ledger known => exact h.of_mem ⟨rfl, rfl, rfl⟩ (.refl net) fun n hn => .inl hn
  | book fetched =>
    rename_i decides _
    obtain rfl : decides = instDecidableEqEntityId := Subsingleton.elim _ _
    exact h.book fetched

/-- The states of a topology and of the network that operations on the topology lead to, while channels are opened and
closed beside it. An operation has its effect when it begins; it then waits for what it handed back to be closed. -/
inductive Reachable [Identity κ] (o : TopologyOptions) : Topology κ → LocalNet → Prop
  | new (net : LocalNet) : Reachable o (.empty o) net
  | op {t : Topology κ} {net : LocalNet} (op : Op κ) (h : Reachable o t net) :
      Reachable o (op.after net t) (op.opens net t)
  | beside {t : Topology κ} {net net' : LocalNet} (h : Reachable o t net) (keeps : net.Keeps net') : Reachable o t net'

variable [Identity κ] {o : TopologyOptions}

theorem Reachable.settled (h : Reachable o t net) : t.Settled := by
  induction h with
  | new net => exact settled_after o []
  | op op _ ih => exact ih.after_op op _
  | beside _ _ ih => exact ih

/-- However operations follow one another, the nodes of a topology stand in the order in which they were entered, each
at an endpoint that suits the mode of security, and each is as the topology has it. -/
theorem nodes_suit (h : Reachable o t net) : t.Settled ∧ ∀ n ∈ t.nodes, n.Suits t net := by
  refine ⟨h.settled, ?_⟩
  induction h with
  | new net => exact fun n hn => (List.not_mem_nil hn).elim
  | op op h ih => exact Suited.after_op ih h.settled op
  | beside h keeps ih => exact fun n hn => (ih n hn).mono ⟨rfl, rfl, rfl⟩ keeps

end Topology

namespace Place

variable {κ : Type} [DecidableEq κ] [Identity κ] (place : Place κ)

/-- Operations that run to their end, one after the other, lead to reachable states. -/
theorem reachable (o : TopologyOptions) (w : World) (moves : List (Topology.Move κ)) :
    Topology.Reachable o (place.get (place.course o w moves)) (place.course o w moves).net := by
  induction moves with
  | nil =>
    rw [course, founded, place.get_put]
    exact .new _
  | cons move past ih =>
    cases move with
    | op op =>
      obtain ⟨htopology, hchannels⟩ := Topology.carried_out place op (place.course o w past)
      rw [course, make, htopology]
      exact (ih.op op).beside ((LocalNet.keeps_closeAll _ _).trans hchannels.opens.keeps)
    | elsewhere f =>
      have hu := place.untouched_elsewhere f (place.course o w past)
      rw [course, make, hu.topology]
      exact ih.beside hu.channels.opens.keeps

/-- The node that was leased is connected as its endpoint asks for. -/
theorem nodes_suit_leased :
    Topology.Reachable {} (consensus.get (consensus.course {} blank leased)) (consensus.course {} blank leased).net ∧
    ∃ n ∈ (consensus.get (consensus.course {} blank leased)).nodes, n.channel = some 0 ∧
      ∃ c, (consensus.course {} blank leased).net.channels[0]? = some c ∧ c.options.tls = n.endpoint.isSecure := by
  have hr := consensus.reachable {} blank leased
  obtain ⟨-, hsuit⟩ := Topology.nodes_suit hr
  have hany : (consensus.get (consensus.course {} blank leased)).nodes.any (·.channel == some 0) = true := by cbv
  obtain ⟨n, hn, hchannel⟩ := List.any_eq_true.mp hany
  have hchannel : n.channel = some 0 := by simpa using hchannel
  obtain ⟨c, hc, -, htls, -⟩ := (hsuit n hn).channel 0 hchannel
  exact ⟨hr, n, hn, hchannel, c, hc, htls⟩

end Place

end LedgerNet
