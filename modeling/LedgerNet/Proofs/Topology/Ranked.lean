import LedgerNet.Proofs.Topology.Operations

/-!
What ranks say of the nodes of an identity. Of all its nodes the best is eligible the soonest; so the identity can be
tried if its best node can, and it is that node which is leased. Identities that are offered have a node.
-/
namespace LedgerNet

namespace Node

variable {κ : Type} {a b c best : Node κ} {nodes : List (Node κ)}

/-- Nodes are compared by three numbers, one after the other. -/
instance : Std.TransCmp (rank (κ := κ)) :=
  inferInstanceAs (Std.TransCmp (compareLex (compareOn fun n : Node κ => n.health.eligibleAt)
    (compareLex (compareOn (·.health.backoff)) (compareOn (·.seq)))))

theorem before_iff : a.before b = true ↔ a.rank b = .lt := beq_iff_eq

theorem not_before_iff : a.before b = false ↔ (b.rank a).isLE = true := by
  rw [Bool.eq_false_iff, ne_eq, before_iff, ← Std.OrientedCmp.gt_iff_lt, ← ne_eq, Ordering.isLE_iff_ne_gt]

theorem not_before_trans (hab : b.before a = false) (hbc : c.before b = false) : c.before a = false := by
  rw [not_before_iff] at *
  exact Std.TransCmp.isLE_trans hab hbc

theorem not_before_of_before (h : a.before b = true) : b.before a = false := by
  rw [not_before_iff, before_iff.mp h]
  rfl

theorem not_before_self (a : Node κ) : a.before a = false := by
  have hself : a.rank a = .eq := Std.ReflCmp.compare_self
  rw [not_before_iff, hself]
  rfl

theorem eligibleAt_le_of_not_before (h : a.before b = false) : b.health.eligibleAt ≤ a.health.eligibleAt := by
  have hnot : a.rank b ≠ .lt := by simpa [before] using h
  refine Nat.le_of_not_lt fun hlt => hnot ?_
  exact Ordering.then_eq_lt.mpr (.inl (Nat.compare_eq_lt.mpr hlt))

theorem best_eq_none : best? nodes = none ↔ nodes = [] := by
  cases nodes with
  | nil => simp [best?]
  | cons n rest =>
    simp only [best?, reduceCtorEq, iff_false]
    split <;> simp

/-- None of the nodes ranks before the best. -/
theorem best_foremost (h : best? nodes = some best) : ∀ n ∈ nodes, n.before best = false := by
  induction nodes generalizing best with
  | nil => cases h
  | cons first rest ih =>
    intro n hn
    simp only [best?] at h
    split at h
    · rename_i hrest
      cases h
      obtain rfl := best_eq_none.mp hrest
      rw [List.mem_singleton.mp hn]
      exact not_before_self _
    · rename_i other hother
      cases hbefore : other.before first with
      | true =>
        simp only [hbefore, if_true, Option.some.injEq] at h
        subst h
        rcases List.mem_cons.mp hn with rfl | hn
        · exact not_before_of_before hbefore
        · exact ih hother n hn
      | false =>
        simp only [hbefore, Bool.false_eq_true, if_false, Option.some.injEq] at h
        subst h
        rcases List.mem_cons.mp hn with rfl | hn
        · exact not_before_self _
        · exact not_before_trans hbefore (ih hother n hn)

theorem best_soonest (h : best? nodes = some best) : ∀ n ∈ nodes, best.health.eligibleAt ≤ n.health.eligibleAt :=
  fun n hn => eligibleAt_le_of_not_before (best_foremost h n hn)

end Node

namespace Topology

variable {κ : Type} [DecidableEq κ] {t : Topology κ} {id : κ} {node : Node κ} {now : Instant}

/-- Whether an identity has a node that can be tried. -/
def ready (t : Topology κ) (now : Instant) (id : κ) : Bool := (t.nodesOf id).any (·.health.isEligible now)

theorem mem_nodesOf : node ∈ t.nodesOf id ↔ node ∈ t.nodes ∧ node.id = id := by
  simp [nodesOf]

theorem contains_iff : t.contains id = true ↔ ∃ n ∈ t.nodes, n.id = id := by
  simp [contains]

theorem ready_iff : t.ready now id = true ↔ ∃ n ∈ t.nodes, n.id = id ∧ n.health.isEligible now = true := by
  simp [ready, nodesOf]

theorem contains_of_ready (h : t.ready now id = true) : t.contains id = true := by
  obtain ⟨n, hn, hid, -⟩ := ready_iff.mp h
  exact contains_iff.mpr ⟨n, hn, hid⟩

theorem bestOf_some (h : t.bestOf? id = some node) : node ∈ t.nodes ∧ node.id = id := mem_nodesOf.mp (best_mem h)

theorem bestOf_none : t.bestOf? id = none ↔ t.contains id = false := by
  rw [bestOf?, Node.best_eq_none, nodesOf, List.filter_eq_nil_iff]
  simp [contains]

/-- An identity can be tried exactly if its best node can. -/
theorem ready_eq (h : t.bestOf? id = some node) : t.ready now id = node.health.isEligible now := by
  rw [Bool.eq_iff_iff]
  constructor
  · intro hready
    obtain ⟨n, hn, heligible⟩ := List.any_eq_true.mp hready
    exact decide_eq_true (Nat.le_trans (Node.best_soonest h n hn) (of_decide_eq_true heligible))
  · intro heligible
    exact List.any_eq_true.mpr ⟨node, best_mem h, heligible⟩

theorem remaining_le (h : t.bestOf? id = some node) {n : Node κ} (hn : n ∈ t.nodesOf id) (now : Instant) :
    node.health.remaining now ≤ n.health.remaining now :=
  Nat.sub_le_sub_right (Node.best_soonest h n hn) now

/-- A lease is of the best node, over its channel. -/
theorem lease_best (h : t.bestOf? id = some node) (net : LocalNet) : ∃ t', t.lease id net =
    (some ⟨id, node.endpoint, node.health, (node.connect net).1⟩, t', (node.connect net).2.2) := by
  obtain ⟨-, rfl⟩ := bestOf_some h
  exact ⟨(t.leaseNode node net).2.1, by simp only [lease, h]; rfl⟩

theorem mem_ids : id ∈ t.ids ↔ t.contains id = true := by
  simp [ids, List.mem_eraseDups, contains]

theorem bestOf_of_contains (h : t.contains id = true) : ∃ n, t.bestOf? id = some n := by
  cases hb : t.bestOf? id with
  | some n => exact ⟨n, rfl⟩
  | none =>
    rw [bestOf_none, h] at hb
    cases hb

/-- Identities by the rank of their best nodes, which are gone through in some order. -/
def rankedFrom (t : Topology κ) (order : List κ) : List κ :=
  ((order.filterMap t.bestOf?).mergeSort fun a b => !b.before a).map (·.id)

theorem bests_ids {order : List κ} (h : ∀ id ∈ order, t.contains id = true) :
    (order.filterMap t.bestOf?).map (·.id) = order := by
  rw [List.map_filterMap]
  refine (List.filterMap_congr fun id hid => ?_).trans List.filterMap_some
  obtain ⟨n, hb⟩ := bestOf_of_contains (h id hid)
  simp [hb, (bestOf_some hb).2]

theorem rankedFrom_perm {order : List κ} (h : ∀ id ∈ order, t.contains id = true) :
    (t.rankedFrom order).Perm order := by
  have hperm := (List.mergeSort_perm (order.filterMap t.bestOf?) fun a b => !b.before a).map (·.id)
  rwa [bests_ids h] at hperm

theorem rankedIds_perm (t : Topology κ) : t.rankedIds.Perm t.ids := rankedFrom_perm fun _ hid => mem_ids.mp hid

theorem contains_of_select (h : id ∈ t.select) : t.contains id = true :=
  mem_ids.mp (t.rankedIds_perm.mem_iff.mp (List.mem_of_mem_take h))

/-- No identity is offered if none has a node, or none is asked for. -/
theorem select_eq_nil : t.select = [] ↔ (∀ id, t.contains id = false) ∨ t.maxNodes = some 0 := by
  have hranked : t.rankedIds = [] ↔ ∀ id, t.contains id = false := by
    simp only [List.eq_nil_iff_forall_not_mem, t.rankedIds_perm.mem_iff, mem_ids, Bool.not_eq_true]
  rw [select, List.take_eq_nil_iff, hranked]
  constructor
  · rintro (hnone | habsent)
    · cases hmax : t.maxNodes with
      | some count =>
        simp only [nodesPerRequest, hmax] at hnone
        rcases Nat.min_eq_zero_iff.mp hnone with rfl | hempty
        · exact .inr rfl
        · exact .inl (hranked.mp (List.length_eq_zero_iff.mp hempty))
      | none =>
        simp only [nodesPerRequest, hmax] at hnone
        have hempty : t.rankedIds.length = 0 := by omega
        exact .inl (hranked.mp (List.length_eq_zero_iff.mp hempty))
    · exact .inl habsent
  · rintro (habsent | hmax)
    · exact .inr habsent
    · exact .inl (by simp [nodesPerRequest, hmax])

end Topology

end LedgerNet
