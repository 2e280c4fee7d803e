import LedgerNet.Proofs.Endpoint.Order
import LedgerNet.Proofs.Endpoint.Security
import LedgerNet.Topology.Basic

/-!
The operations on a topology as data, so that what holds in every state can be said of every history. What all of
them keep is the order in which nodes were entered, and that every endpoint is under the mode of security.
-/
namespace LedgerNet.Topology

/-- An operation on a topology. Only consensus nodes have an address book. -/
inductive Op : Type → Type 1 where
  | replace {κ : Type} (network : List (Endpoint × κ)) : Op κ
  | security {κ : Type} (secure : Bool) : Op κ
  | verify {κ : Type} (verify : Bool) : Op κ
  | lease {κ : Type} (id : κ) : Op κ
  | leaseNext {κ : Type} : Op κ
  | succeed {κ : Type} (endpoint : Endpoint) : Op κ
  | fail {κ : Type} (endpoint : Endpoint) : Op κ
  | clear {κ : Type} : Op κ
  | maxNodes {κ : Type} (count : Option Nat) : Op κ
  | ledger {κ : Type} (ledger : Option LedgerId) : Op κ
  | book (book : AddressBook) : Op AccountId

/-- The topology after an operation in a network. -/
def Op.after (net : LocalNet) : {κ : Type} → [DecidableEq κ] → [Identity κ] → Op κ → Topology κ → Topology κ
  | _, _, _, .replace network, t => (t.replaceNetwork network net.now).2.2
  | _, _, _, .security secure, t => ((t.switchSecurity secure net.now).map (·.2)).getD t
  | _, _, _, .verify wanted, t => ((t.switchVerify wanted net.now).map (·.2)).getD t
  | _, _, _, .lease id, t => (t.lease id net).2.1
  | _, _, _, .leaseNext, t => (t.leaseNext net).2.1
  | _, _, _, .succeed endpoint, t => t.markSuccess endpoint net.now
  | _, _, _, .fail endpoint, t => (t.markFailure endpoint net).2.1
  | _, _, _, .clear, t => t.clear.2
  | _, _, _, .maxNodes count, t => { t with maxNodes := count }
  | _, _, _, .ledger known, t => { t with ledger := known }
  | _, _, _, .book fetched, t => (t.applyBook fetched net).1

variable {κ : Type} [DecidableEq κ] [Identity κ]

/-- What was done to a topology, each operation with the network it met, the latest first. -/
abbrev History (κ : Type) := List (LocalNet × Op κ)

def after (t : Topology κ) : History κ → Topology κ
  | [] => t
  | (net, op) :: past => op.after net (t.after past)

omit [DecidableEq κ] [Identity κ]

def endpoints (t : Topology κ) : List Endpoint := t.nodes.map (·.endpoint)

def seqs (t : Topology κ) : List Nat := t.nodes.map (·.seq)

/-- Nodes stand in the order in which they were entered, each at an endpoint that suits the mode of security. -/
structure Settled (t : Topology κ) : Prop where
  placed : ∀ e ∈ t.endpoints, e.withSecurity t.secure = e
  ordered : t.seqs.Pairwise (· < ·)
  bound : ∀ s ∈ t.seqs, s < t.nextSeq

/-- No two nodes share an endpoint. -/
def Distinct (t : Topology κ) : Prop := t.endpoints.Nodup

/-- Nodes may have gone, and those that stay stand where they stood. -/
structure Within (t t' : Topology κ) : Prop where
  endpoints : t.endpoints.Sublist t'.endpoints
  seqs : t.seqs.Sublist t'.seqs
  secure : t.secure = t'.secure
  nextSeq : t.nextSeq = t'.nextSeq

theorem Within.refl (t : Topology κ) : Within t t := ⟨.refl _, .refl _, rfl, rfl⟩

theorem Within.settled {t t' : Topology κ} (h : Within t t') (hs : t'.Settled) : t.Settled := by
  refine ⟨?_, hs.ordered.sublist h.seqs, ?_⟩
  · intro e he
    rw [h.secure]
    exact hs.placed e (h.endpoints.subset he)
  · intro s hm
    rw [h.nextSeq]
    exact hs.bound s (h.seqs.subset hm)

theorem Within.distinct {t t' : Topology κ} (h : Within t t') (hd : t'.Distinct) : t.Distinct :=
  hd.sublist h.endpoints

/-- A change of the nodes that moves none of them. -/
theorem Within.of_nodes {t : Topology κ} {nodes : List (Node κ)}
    (he : nodes.map (·.endpoint) = t.endpoints) (hs : nodes.map (·.seq) = t.seqs) :
    Within { t with nodes } t :=
  ⟨he ▸ .refl _, hs ▸ .refl _, rfl, rfl⟩

/-- A change of every node that moves none of them. -/
theorem Within.of_map {t t' : Topology κ} {g : Node κ → Node κ} (h : t'.nodes = t.nodes.map g)
    (he : ∀ n, (g n).endpoint = n.endpoint) (hs : ∀ n, (g n).seq = n.seq) (secure : t'.secure = t.secure)
    (nextSeq : t'.nextSeq = t.nextSeq) : Within t' t := by
  have hends : t'.endpoints = t.endpoints := by simp [Topology.endpoints, h, he]
  have hseqs : t'.seqs = t.seqs := by simp [Topology.seqs, h, hs]
  exact ⟨hends ▸ .refl _, hseqs ▸ .refl _, secure, nextSeq⟩

/-- A change at one endpoint keeps whatever it leaves of each node. -/
theorem map_updateAt {β : Type} (f : Node κ → β) {g : Node κ → Node κ} (hg : ∀ n, f (g n) = f n)
    (endpoint : Endpoint) (nodes : List (Node κ)) : (updateAt endpoint g nodes).map f = nodes.map f := by
  induction nodes with
  | nil => rfl
  | cons n rest ih =>
    simp only [updateAt]
    split
    · rw [List.map_cons, List.map_cons, hg]
    · rw [List.map_cons, List.map_cons, ih]

theorem Within.of_update {t : Topology κ} {g : Node κ → Node κ} (he : ∀ n, (g n).endpoint = n.endpoint)
    (hs : ∀ n, (g n).seq = n.seq) (endpoint : Endpoint) :
    Within { t with nodes := updateAt endpoint g t.nodes } t :=
  .of_nodes (map_updateAt _ he _ _) (map_updateAt _ hs _ _)

theorem removeAt_sublist (endpoint : Endpoint) (nodes : List (Node κ)) :
    (removeAt endpoint nodes).Sublist nodes := by
  induction nodes with
  | nil => exact .refl _
  | cons n rest ih =>
    simp only [removeAt]
    split
    · exact List.sublist_cons_self _ _
    · exact ih.cons_cons n

/-- Where numbers are distinct, a node's number stands for the node. -/
theorem Settled.eq_of_seq {t : Topology κ} (h : t.Settled) {n m : Node κ} (hn : n ∈ t.nodes)
    (hm : m ∈ t.nodes) (he : n.seq = m.seq) : n = m := by
  have hp : t.nodes.Pairwise fun a b => a.seq < b.seq := List.pairwise_map.mp h.ordered
  rcases List.mem_iff_append.mp hn with ⟨before, after, heq⟩
  rw [heq] at hp hm
  obtain ⟨-, htail, hcross⟩ := List.pairwise_append.mp hp
  rcases List.mem_append.mp hm with hm | hm
  · have := hcross m hm n List.mem_cons_self
    omega
  · rcases List.mem_cons.mp hm with rfl | hm
    · rfl
    · have := List.rel_of_pairwise_cons htail hm
      omega

/-- A node that takes the place of another keeps whatever the two have in common. -/
theorem Settled.map_replace {β : Type} {t : Topology κ} (h : t.Settled) (f : Node κ → β) {old new : Node κ}
    (hm : old ∈ t.nodes) (hs : new.seq = old.seq) (hf : f new = f old) :
    (replace new t.nodes).map f = t.nodes.map f := by
  simp only [replace, List.map_map]
  apply List.map_congr_left
  intro n hn
  simp only [Function.comp]
  split
  · rename_i he
    have he : n.seq = old.seq := by simpa [hs] using he
    rw [h.eq_of_seq hn hm he, hf]
  · rfl

/-- Connecting a node changes nothing but its channel. -/
theorem connect_eq (n : Node κ) (net : LocalNet) :
    ∃ channel, (n.connect net).2.1 = { n with channel } := by
  unfold Node.connect
  split
  · exact ⟨n.channel, rfl⟩
  · split
    · exact ⟨n.channel, rfl⟩
    · rename_i id _ _
      exact ⟨some id, rfl⟩

theorem Settled.lease_node {t : Topology κ} (h : t.Settled) {n : Node κ} (hn : n ∈ t.nodes) (net : LocalNet) :
    Within (t.leaseNode n net).2.1 t := by
  obtain ⟨channel, hc⟩ := connect_eq n net
  have he : (t.leaseNode n net).2.1 = { t with nodes := replace (n.connect net).2.1 t.nodes } := rfl
  rw [he, hc]
  exact .of_nodes (h.map_replace _ hn rfl rfl) (h.map_replace _ hn rfl rfl)

theorem best_mem {nodes : List (Node κ)} {n : Node κ} (h : Node.best? nodes = some n) : n ∈ nodes := by
  induction nodes generalizing n with
  | nil => cases h
  | cons m rest ih =>
    simp only [Node.best?] at h
    split at h
    · cases h
      exact List.mem_cons_self
    · rename_i other ho
      split at h <;> cases h
      · exact List.mem_cons_of_mem _ (ih ho)
      · exact List.mem_cons_self

theorem Within.mark_failure [Identity κ] (t : Topology κ) (endpoint : Endpoint) (net : LocalNet) :
    Within (t.markFailure endpoint net).2.1 t := by
  unfold markFailure
  split
  · exact .refl t
  · dsimp only
    split
    · have hr := removeAt_sublist endpoint t.nodes
      exact ⟨hr.map _, hr.map _, rfl, rfl⟩
    · exact .of_update (by intro n; rfl) (by intro n; rfl) endpoint

theorem Settled.lease [DecidableEq κ] {t : Topology κ} (h : t.Settled) (id : κ) (net : LocalNet) :
    Within (t.lease id net).2.1 t := by
  unfold Topology.lease
  cases hb : t.bestOf? id with
  | none => exact .refl t
  | some n => exact h.lease_node ((List.mem_filter.mp (best_mem hb)).1) net

theorem Settled.lease_next {t : Topology κ} (h : t.Settled) (net : LocalNet) :
    Within (t.leaseNext net).2.1 t := by
  unfold leaseNext
  split
  · exact .refl t
  · rename_i place _
    split
    · exact .refl t
    · rename_i n hn
      have hs : Settled { t with turn := (place + 1) % t.nodes.length } := ⟨h.placed, h.ordered, h.bound⟩
      have hw := hs.lease_node (List.mem_of_getElem? hn) net
      exact ⟨hw.endpoints, hw.seqs, hw.secure, hw.nextSeq⟩

/-- A history in which every operation keeps a property, keeps it. -/
theorem after_induction [DecidableEq κ] [Identity κ] {P : Topology κ → Prop}
    (step : ∀ t (op : Op κ) net, P t → P (op.after net t)) {t : Topology κ} (start : P t) (history : History κ) :
    P (t.after history) := by
  induction history with
  | nil => exact start
  | cons move past ih => exact step _ move.2 move.1 ih

end LedgerNet.Topology
