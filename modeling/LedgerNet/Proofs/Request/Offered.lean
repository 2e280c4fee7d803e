import LedgerNet.Proofs.Request.Candidates
import LedgerNet.Proofs.Topology.Recorded

/-!
When nobody is offered to a request: where there is no node, and where none is asked for. Settings that ask for none are
refused, but the count can be set afterwards without being looked at, and stays in force until it is set again.
-/
namespace LedgerNet

namespace Topology

variable {κ : Type} [DecidableEq κ]

/-- Nobody is offered exactly where there is no node, or none is asked for. -/
theorem select_nil_iff {t : Topology κ} : t.select = [] ↔ t.nodes = [] ∨ t.maxNodes = some 0 := by
  have hnodes : (∀ id, t.contains id = false) ↔ t.nodes = [] := by
    constructor
    · intro h
      refine List.eq_nil_iff_forall_not_mem.mpr fun n hn => ?_
      have hid := contains_iff.mpr ⟨n, hn, rfl⟩
      rw [h] at hid
      cases hid
    · intro h id
      simp [contains, h]
  rw [select_eq_nil, hnodes]

end Topology

namespace Course
open RequestRun

variable {α : Type} {c : Course α}

/-- A request that insists on no nodes fails before its first step exactly if it is offered none. -/
theorem start_empty_iff (hfree : c.request.isPinned = false) :
    (c.run 0).result? = some (.error .emptyTopology) ↔ c.world.consensus.select = [] := by
  refine ⟨start_empty hfree, fun hnone => result_some.mpr ?_⟩
  simp [run, after, start, hfree, hnone]

/-- After any operations nobody is offered exactly if there is no node or the count that was last set is none. A request
that insists on no nodes fails for want of nodes at its start exactly in such a state, and later only in such a state,
unless one of its own hooks says so. -/
theorem offered_none_iff {κ : Type} [DecidableEq κ] [Identity κ] (o : TopologyOptions) (history : Topology.History κ) :
    let t := (Topology.empty o).after history
    (t.select = [] ↔ t.nodes = [] ∨ Topology.countInForce o history = some 0) ∧
    ∀ {α : Type} (c : Course α), c.request.isPinned = false →
      ((c.run 0).result? = some (.error .emptyTopology) ↔
        c.world.consensus.nodes = [] ∨ c.world.consensus.maxNodes = some 0) ∧
      ∀ n, (c.run n).result? = none → (c.run (n + 1)).result? = some (.error .emptyTopology) →
        ((c.before n).consensus.nodes = [] ∨ (c.before n).consensus.maxNodes = some 0) ∨
          (c.run n).Raised (c.before n) .emptyTopology := by
  intro t
  refine ⟨?_, fun c hfree => ⟨?_, fun n hrunning hempty => ?_⟩⟩
  · rw [Topology.select_nil_iff, Topology.maxNodes_after]
  · rw [start_empty_iff hfree, Topology.select_nil_iff]
  · rw [← Topology.select_nil_iff]
    exact starved hfree hrunning hempty

/-- A node is there, and then none is asked for. -/
def unasked : Topology.History AccountId :=
  [({}, .maxNodes (some 0)), ({}, .replace [(.remote "h" plainPort false, ⟨0, 0, 3⟩)])]

/-- Nobody is offered although there is a node, and a request that insists on none fails at once. -/
theorem not_always_offered :
    ¬ (∀ (o : TopologyOptions) (history : Topology.History AccountId), ((Topology.empty o).after history).select = [] →
        ((Topology.empty o).after history).nodes = []) ∧
    ¬ ∀ c : Course Unit, c.request.isPinned = false → (c.run 0).result? = some (.error .emptyTopology) →
        c.world.consensus.nodes = [] := by
  have hends : ((Topology.empty {}).after unasked).nodes.map (·.endpoint) = [.remote "h" plainPort false] := by cbv
  have hnodes : ((Topology.empty {}).after unasked).nodes ≠ [] := by
    intro hnil
    rw [hnil] at hends
    cases hends
  have hnone : ((Topology.empty {}).after unasked).select = [] := by cbv
  refine ⟨fun h => hnodes (h {} unasked hnone), fun h => ?_⟩
  let c : Course Unit :=
    { unanswered 2 with world := { (unanswered 2).world with consensus := (Topology.empty {}).after unasked } }
  have hfree : c.request.isPinned = false := rfl
  exact hnodes (h c hfree ((start_empty_iff hfree).mpr hnone))

end Course

end LedgerNet
