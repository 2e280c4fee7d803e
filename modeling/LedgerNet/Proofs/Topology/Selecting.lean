import Mathlib.Algebra.Order.Floor.Div
import Mathlib.Data.Nat.Basic
import LedgerNet.Proofs.Topology.Distinct
import LedgerNet.Proofs.Topology.Ranked

/-!
Selection takes the best. No two nodes have one number, so that ranks order the nodes of every state strictly: each
identity has one best node, one of any two identities outranks the other, and it does not matter in which order they are
gone through.
-/
namespace LedgerNet.Topology

open scoped List

variable {κ : Type}

/-- The node of an identity that ranks before all its others. -/
structure Foremost (t : Topology κ) (id : κ) (n : Node κ) : Prop where
  mem : n ∈ t.nodes
  named : n.id = id
  first : ∀ m ∈ t.nodes, m.id = id → m ≠ n → n.before m = true

/-- The best node of one identity ranks before the best of the other. -/
def Outranks (t : Topology κ) (a b : κ) : Prop := ∃ n m, t.Foremost a n ∧ t.Foremost b m ∧ n.before m = true

variable [DecidableEq κ]

/-- The identities that are offered when their best nodes are gone through in some order. -/
def selectFrom (t : Topology κ) (order : List κ) : List κ :=
  (t.rankedFrom order).take (nodesPerRequest (t.rankedFrom order).length t.maxNodes)

theorem select_eq (t : Topology κ) : t.select = t.selectFrom t.ids := rfl

variable {t : Topology κ} {order order' : List κ} {id a b : κ} {n m : Node κ}

omit [DecidableEq κ] in
/-- Of two nodes one ranks before the other. -/
theorem Settled.before_of_not (h : t.Settled) (hn : n ∈ t.nodes) (hm : m ∈ t.nodes) (hne : n ≠ m)
    (hnot : m.before n = false) : n.before m = true := by
  refine Node.before_iff.mpr ?_
  have hle := Node.not_before_iff.mp hnot
  cases hr : n.rank m with
  | lt => rfl
  | eq =>
    have hseq : compare n.seq m.seq = .eq := (Ordering.then_eq_eq.mp (Ordering.then_eq_eq.mp hr).2).2
    exact absurd (h.eq_of_seq hn hm (Nat.compare_eq_eq.mp hseq)) hne
  | gt =>
    rw [hr] at hle
    cases hle

theorem Settled.foremost (h : t.Settled) (hb : t.bestOf? id = some n) : t.Foremost id n := by
  obtain ⟨hn, hid⟩ := bestOf_some hb
  refine ⟨hn, hid, fun m hm hmid hne => ?_⟩
  exact h.before_of_not hn hm hne.symm (Node.best_foremost hb m (mem_nodesOf.mpr ⟨hm, hmid⟩))

omit [DecidableEq κ] in
/-- An identity has at most one best node. -/
theorem Foremost.unique (hn : t.Foremost id n) (hm : t.Foremost id m) : m = n := by
  by_contra hne
  have hbefore := hn.first m hm.mem hm.named hne
  rw [Node.not_before_of_before (hm.first n hn.mem hn.named (Ne.symm hne))] at hbefore
  cases hbefore

theorem nodup_eraseDups (l : List κ) : l.eraseDups.Nodup := by
  cases l with
  | nil => exact .nil
  | cons first rest =>
    rw [List.eraseDups_cons, List.nodup_cons]
    refine ⟨?_, nodup_eraseDups (rest.filter fun x => !x == first)⟩
    simp [List.mem_eraseDups]
termination_by l.length
decreasing_by exact Nat.lt_succ_of_le (List.length_filter_le _ _)

theorem nodup_ids (t : Topology κ) : t.ids.Nodup := nodup_eraseDups _

/-- The best nodes, sorted: none is ranked before an earlier one. -/
theorem bests_sorted (t : Topology κ) (order : List κ) :
    ((order.filterMap t.bestOf?).mergeSort fun a b => !b.before a).Pairwise fun a b => b.before a = false := by
  have htrans (a b c : Node κ) (hab : (!b.before a) = true) (hbc : (!c.before b) = true) : (!c.before a) = true := by
    simp only [Bool.not_eq_true'] at *
    exact Node.not_before_trans hab hbc
  have htotal (a b : Node κ) : (!b.before a || !a.before b) = true := by
    cases hb : b.before a with
    | false => rfl
    | true => simp [Node.not_before_of_before hb]
  exact (List.pairwise_mergeSort htrans htotal _).imp fun h => by simpa using h

theorem Settled.mem_bests (h : t.Settled) (hn : n ∈ (order.filterMap t.bestOf?).mergeSort fun a b => !b.before a) :
    t.Foremost n.id n := by
  obtain ⟨id, -, hb⟩ := List.mem_filterMap.mp (List.mem_mergeSort.mp hn)
  obtain ⟨-, rfl⟩ := bestOf_some hb
  exact h.foremost hb

/-- Of the identities in order of rank each outranks all that follow. -/
theorem Settled.ranked_pairwise (h : t.Settled) (hd : order.Nodup) (hc : ∀ id ∈ order, t.contains id = true) :
    (t.rankedFrom order).Pairwise t.Outranks := by
  have hnodup : ((order.filterMap t.bestOf?).mergeSort fun a b => !b.before a).Nodup := by
    refine List.Nodup.of_map (·.id) ?_
    exact (rankedFrom_perm hc).nodup_iff.mpr hd
  refine List.pairwise_map.mpr (((bests_sorted t order).and hnodup).imp_of_mem ?_)
  intro n m hn hm ⟨hnot, hne⟩
  have hforemost := h.mem_bests hn
  have hforemost' := h.mem_bests hm
  exact ⟨n, m, hforemost, hforemost', h.before_of_not hforemost.mem hforemost'.mem hne hnot⟩

omit [DecidableEq κ] in
theorem Outranks.asymm (hab : t.Outranks a b) : ¬ t.Outranks b a := by
  rintro ⟨m', n', hm', hn', hbefore'⟩
  obtain ⟨n, m, hn, hm, hbefore⟩ := hab
  obtain rfl := hn.unique hn'
  obtain rfl := hm.unique hm'
  rw [Node.not_before_of_before hbefore] at hbefore'
  cases hbefore'

/-- The order of rank does not depend on the order in which the identities are gone through. -/
theorem Settled.rankedFrom_eq (h : t.Settled) (hp : order' ~ order) (hd : order.Nodup)
    (hc : ∀ id ∈ order, t.contains id = true) : t.rankedFrom order' = t.rankedFrom order := by
  have hc' : ∀ id ∈ order', t.contains id = true := fun id hid => hc id (hp.mem_iff.mp hid)
  have hperm : t.rankedFrom order' ~ t.rankedFrom order :=
    (rankedFrom_perm hc').trans (hp.trans (rankedFrom_perm hc).symm)
  refine List.Perm.eq_of_pairwise ?_ (h.ranked_pairwise (hp.nodup_iff.mpr hd) hc') (h.ranked_pairwise hd hc) hperm
  intro a b _ _ hab hba
  exact absurd hba hab.asymm

/-- Selection offers the best identities, the best first, and the node that is leased of one is its best. -/
structure ChoosesBest (t : Topology κ) : Prop where
  count : t.select.length = match t.maxNodes with
    | some count => min count t.size
    | none => min t.size (max 1 (t.size ⌈/⌉ 3))
  distinct : t.select.Nodup
  held : ∀ id ∈ t.select, t.contains id = true
  ordered : t.select.Pairwise t.Outranks
  best : ∀ a ∈ t.select, ∀ b, t.contains b = true → b ∉ t.select → t.Outranks a b
  /-- In whichever order the identities are gone through, the same are selected. -/
  stable : ∀ order, order ~ t.ids → t.selectFrom order = t.select
  leased : ∀ id, t.contains id = true → ∃ n, t.Foremost id n ∧ (∀ m, t.Foremost id m → m = n) ∧
    t.bestHealth? id = some n.health ∧
    ∀ net, (t.lease id net).1 = some ⟨id, n.endpoint, n.health, (n.connect net).1⟩
  absent : ∀ id, t.contains id = false → t.bestHealth? id = none ∧ ∀ net, (t.lease id net).1 = none

theorem length_select (t : Topology κ) : t.select.length = nodesPerRequest t.size t.maxNodes := by
  have hranked : t.rankedIds.length = t.size := t.rankedIds_perm.length_eq
  have hle : nodesPerRequest t.size t.maxNodes ≤ t.size := by
    unfold nodesPerRequest
    split <;> exact Nat.min_le_right _ _
  rw [select, List.length_take, hranked, Nat.min_eq_left hle]

theorem Settled.select_best (h : t.Settled) (ha : a ∈ t.select) (hb : t.contains b = true) (hout : b ∉ t.select) :
    t.Outranks a b := by
  have hsplit := List.take_append_drop (nodesPerRequest t.rankedIds.length t.maxNodes) t.rankedIds
  have hranked : t.rankedIds.Pairwise t.Outranks := h.ranked_pairwise t.nodup_ids fun _ hid => mem_ids.mp hid
  have hmem : b ∈ t.rankedIds := t.rankedIds_perm.mem_iff.mpr (mem_ids.mpr hb)
  rw [← hsplit] at hranked hmem
  exact (List.pairwise_append.mp hranked).2.2 a ha b ((List.mem_append.mp hmem).resolve_left hout)

theorem Settled.leases_best (h : t.Settled) (hc : t.contains id = true) : ∃ n, t.Foremost id n ∧
    t.bestHealth? id = some n.health ∧
    ∀ net, (t.lease id net).1 = some ⟨id, n.endpoint, n.health, (n.connect net).1⟩ := by
  obtain ⟨n, hb⟩ := bestOf_of_contains hc
  obtain ⟨-, rfl⟩ := bestOf_some hb
  refine ⟨n, h.foremost hb, by rw [bestHealth?, hb, Option.map_some], fun net => ?_⟩
  simp only [Topology.lease, hb]
  rfl

/-- In every state that operations lead to, as many identities are offered as are asked for or else a third of them,
rounded up; they are those that rank best, and the node that stands for each is the best that it has. -/
theorem chooses_best [Identity κ] (o : TopologyOptions) (history : History κ) :
    ((empty o).after history).ChoosesBest := by
  have h : ((empty o).after history).Settled := settled_after o history
  generalize (empty o).after history = t at h
  have hranked : t.rankedIds.Pairwise t.Outranks := h.ranked_pairwise t.nodup_ids fun _ hid => mem_ids.mp hid
  have hnodup : t.rankedIds.Nodup := t.rankedIds_perm.nodup_iff.mpr t.nodup_ids
  refine ⟨?_, hnodup.sublist (List.take_sublist _ _), fun _ => contains_of_select,
    hranked.sublist (List.take_sublist _ _), fun a ha b => h.select_best ha, ?_, ?_, ?_⟩
  · rw [length_select]
    unfold nodesPerRequest
    cases t.maxNodes with
    | some count => rfl
    | none =>
      have hthird : t.size ⌈/⌉ 3 = (t.size + 2) / 3 := Nat.ceilDiv_eq_add_pred_div t.size 3
      rw [hthird, Nat.min_comm, Nat.max_comm]
  · intro order horder
    rw [select_eq, selectFrom, selectFrom, h.rankedFrom_eq horder t.nodup_ids fun _ hid => mem_ids.mp hid]
  · intro id hc
    obtain ⟨n, hforemost, hhealth, hlease⟩ := h.leases_best hc
    exact ⟨n, hforemost, fun m hm => hforemost.unique hm, hhealth, hlease⟩
  · intro id hnone
    have hb := bestOf_none.mpr hnone
    refine ⟨by rw [bestHealth?, hb, Option.map_none], fun net => ?_⟩
    simp only [lease, hb]

/-- Four nodes of three identities at one instant, the oldest of which has failed. -/
example :
    let network : List (Endpoint × AccountId) := [(.remote "a" 1 false, ⟨0, 0, 3⟩), (.remote "b" 1 false, ⟨0, 0, 4⟩),
      (.remote "c" 1 false, ⟨0, 0, 5⟩), (.remote "d" 1 false, ⟨0, 0, 3⟩)]
    let t := (empty { maxNodes := some 2 }).after [({}, .fail (.remote "a" 1 false)), ({}, .replace network)]
    t.select = [⟨0, 0, 3⟩, ⟨0, 0, 4⟩] ∧ (t.lease ⟨0, 0, 3⟩ {}).1.map (·.endpoint) = some (.remote "d" 1 false) := by
  refine ⟨?_, ?_⟩ <;> cbv

end LedgerNet.Topology
