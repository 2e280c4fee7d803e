import LedgerNet.Proofs.Topology.Replace

/-! A topology without nodes gives no lease, and stays without nodes until it is given a network. -/
namespace LedgerNet

theorem EndpointMap.insert_ne_nil {α : Type} (e : Endpoint) (a : α) (map : EndpointMap α) :
    insert e a map ≠ [] := by
  unfold insert
  split
  · simp
  · split <;> simp

theorem EndpointMap.ofPairs_eq_nil {α : Type} {pairs : List (Endpoint × α)} : ofPairs pairs = [] ↔ pairs = [] := by
  constructor
  · intro h
    cases hr : pairs.reverse with
    | nil => simpa using hr
    | cons last rest =>
      have hp : pairs = rest.reverse ++ [last] := by rw [← pairs.reverse_reverse, hr, List.reverse_cons]
      rw [hp, ofPairs, List.foldl_append] at h
      exact absurd h (insert_ne_nil _ _ _)
  · rintro rfl
    rfl

namespace Topology

variable {κ : Type} {t : Topology κ}

theorem markSuccess_nil (h : t.nodes = []) (endpoint : Endpoint) (now : Instant) :
    (t.markSuccess endpoint now).nodes = [] := by
  simp [markSuccess, h, updateAt]

theorem markFailure_nil [Identity κ] (h : t.nodes = []) (endpoint : Endpoint) (net : LocalNet) :
    t.markFailure endpoint net = (none, t, net) := by
  simp [markFailure, nodeAt?, h]

/-- A failure at no node changes nothing. -/
theorem markFailure_none [Identity κ] {t' : Topology κ} {endpoint : Endpoint} {net net' : LocalNet}
    (h : t.markFailure endpoint net = (none, t', net')) : t' = t ∧ net' = net := by
  unfold markFailure at h
  split at h
  · cases h
    exact ⟨rfl, rfl⟩
  · dsimp only at h
    split at h <;> cases h

/-- Where a failure is marked there is a node. -/
theorem markFailure_some [Identity κ] {t' : Topology κ} {endpoint : Endpoint} {net net' : LocalNet} {marked : Marked}
    (h : t.markFailure endpoint net = (some marked, t', net')) : t.nodes ≠ [] := by
  intro hnil
  rw [markFailure_nil hnil] at h
  cases h

theorem leaseNext_nil (h : t.nodes = []) (net : LocalNet) : t.leaseNext net = (none, t, net) := by
  have hp : t.nextPlace? net.now = none := by simp [nextPlace?, h]
  simp only [leaseNext, hp]

theorem leaseNext_none {t' : Topology κ} {net net' : LocalNet} (h : t.leaseNext net = (none, t', net')) :
    t' = t ∧ net' = net := by
  unfold leaseNext at h
  split at h
  · cases h
    exact ⟨rfl, rfl⟩
  · split at h
    · cases h
      exact ⟨rfl, rfl⟩
    · cases h

theorem leaseNext_some {t' : Topology κ} {net net' : LocalNet} {lease : Lease κ}
    (h : t.leaseNext net = (some lease, t', net')) : t.nodes ≠ [] := by
  intro hnil
  rw [leaseNext_nil hnil] at h
  cases h

theorem lease_nil [DecidableEq κ] (h : t.nodes = []) (id : κ) (net : LocalNet) :
    t.lease id net = (none, t, net) := by
  have hb : t.bestOf? id = none := by simp [bestOf?, nodesOf, h, Node.best?]
  simp only [lease, hb]

/-- A replacement of the node set leaves no nodes exactly when it wants none. -/
theorem replace_nil_iff [DecidableEq κ] [Identity κ] (t : Topology κ) (network : List (Endpoint × κ)) (now : Instant) :
    (t.replaceNetwork network now).2.2.nodes = [] ↔ network = [] := by
  have hdesired : desired t.secure network = [] ↔ network = [] := by
    rw [desired, EndpointMap.ofPairs_eq_nil, List.map_eq_nil_iff]
  rw [replace_eq, enter_all, List.append_eq_nil_iff, ← List.length_eq_zero_iff (l := newcomers ..), newcomers,
    List.length_map, List.length_zipIdx, List.length_eq_zero_iff]
  dsimp only
  constructor
  · rintro ⟨hkept, hmissing⟩
    have hlength := (missing_perm (desired t.secure network) ([] : List (Node κ))).length_eq
    rw [hkept] at hmissing
    rw [hmissing] at hlength
    exact hdesired.mp (List.length_eq_zero_iff.mp (by simpa using hlength.symm))
  · intro hnil
    have hwanted : isWanted (desired t.secure network) = fun _ => false := by
      funext n
      simp [isWanted, hdesired.mpr hnil, EndpointMap.get?]
    rw [hwanted, List.filter_false, hdesired.mpr hnil]
    exact ⟨rfl, by simp [missing]⟩

end Topology

end LedgerNet
