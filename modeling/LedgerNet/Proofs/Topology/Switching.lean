import LedgerNet.Proofs.Topology.Difference

/-!
A switch of transport security and back. Every node stands where it stood, but a demand for TLS on a consensus port does
not outlive the switch.
-/
namespace LedgerNet

namespace Topology

variable {κ : Type} [DecidableEq κ] [Identity κ]

theorem sites_switched {t : Topology κ} {secure : Bool} (h : t.secure ≠ secure) (net : LocalNet) :
    ((Op.security secure).after net t).sites = t.sites.map fun (e, id) => (e.withSecurity secure, id) := by
  simp [Op.after, switchSecurity, h, moveAll, sites, Node.moved]

/-- The topology when its security has been switched to the other mode and back. -/
def switchedBack (t : Topology κ) (net net' : LocalNet) : Topology κ :=
  (Op.security t.secure).after net' ((Op.security (!t.secure)).after net t)

theorem secure_switchedBack (t : Topology κ) (net net' : LocalNet) : (t.switchedBack net net').secure = t.secure := by
  have hother : t.secure ≠ !t.secure := by simp
  have hthere := (switched hother net).2.2.2
  exact (switched (by simp [hthere]) net').2.2.2

theorem Settled.sites_switchedBack {t : Topology κ} (h : t.Settled) (net net' : LocalNet) :
    (t.switchedBack net net').sites = t.sites.map fun (e, id) => (e.lapsed, id) := by
  have hother : t.secure ≠ !t.secure := by simp
  have hthere := (switched hother net).2.2.2
  rw [switchedBack, sites_switched (by simp [hthere]), sites_switched (by simp), List.map_map]
  refine List.map_congr_left ?_
  rintro ⟨e, id⟩ hs
  obtain ⟨n, hn, rfl, -⟩ := mem_sites.mp hs
  exact Prod.ext (Endpoint.switched_back (h.placed _ (List.mem_map_of_mem hn))) rfl

/-- No node demands TLS on a consensus port. -/
def Undemanding (t : Topology κ) : Prop := ∀ e ∈ t.endpoints, e.insists = false

omit [DecidableEq κ] [Identity κ] in
theorem mem_endpoints {t : Topology κ} {e : Endpoint} : e ∈ t.endpoints ↔ ∃ id, (e, id) ∈ t.sites := by
  simp [endpoints, sites]

theorem Settled.undemanding_switchedBack {t : Topology κ} (h : t.Settled) (net net' : LocalNet) :
    (t.switchedBack net net').Undemanding := by
  intro e he
  obtain ⟨id, hs⟩ := mem_endpoints.mp he
  rw [h.sites_switchedBack] at hs
  obtain ⟨⟨e', id'⟩, -, heq⟩ := List.mem_map.mp hs
  cases heq
  exact e'.insists_lapsed

theorem Settled.sites_restored {t : Topology κ} (h : t.Settled) (hu : t.Undemanding) (net net' : LocalNet) :
    (t.switchedBack net net').sites = t.sites := by
  rw [h.sites_switchedBack]
  refine (List.map_congr_left ?_).trans (List.map_id _)
  rintro ⟨e, id⟩ hs
  exact Prod.ext (Endpoint.lapsed_eq_iff.mpr (hu e (mem_endpoints.mpr ⟨id, hs⟩))) rfl

/-- The map from endpoints to identities is restored exactly if no demand was there to lapse. -/
theorem Settled.network_restored_iff {t : Topology κ} (h : t.Settled) (net net' : LocalNet) :
    (t.switchedBack net net').network = t.network ↔ t.Undemanding := by
  constructor
  · intro heq e he
    have hkey : ∃ id, t.network.get? e = some id :=
      EndpointMap.get?_ofPairs_some_iff.mpr (by simpa [endpoints] using he)
    rw [← heq] at hkey
    have hback := EndpointMap.get?_ofPairs_some_iff.mp hkey
    exact h.undemanding_switchedBack net net' e (by simpa [endpoints] using hback)
  · intro hu
    exact congrArg EndpointMap.ofPairs (h.sites_restored hu net net')

theorem Settled.installed_restored_iff {t : Topology κ} (h : t.Settled) {network : List (Endpoint × κ)}
    (hi : t.Installed network) (net net' : LocalNet) :
    (t.switchedBack net net').Installed network ↔ t.Undemanding := by
  constructor
  · intro hback e he
    obtain ⟨id, hs⟩ := mem_endpoints.mp he
    have hnamed := (hi e id).mp hs
    rw [← secure_switchedBack t net net', ← hback e id] at hnamed
    exact h.undemanding_switchedBack net net' e (mem_endpoints.mpr ⟨id, hnamed⟩)
  · intro hu e id
    rw [h.sites_restored hu, secure_switchedBack]
    exact hi e id

/-- A switch of security to the other mode and back leaves every node where it stood, save that a demand for TLS on a
consensus port lapses. That costs the node TLS under plain traffic only. What was there is restored, and a network that
was in place is still in place, exactly if there was no such demand. -/
theorem switchedBack_iff (o : TopologyOptions) (history : History κ) (net net' : LocalNet) :
    let t := (empty o).after history
    let t' := t.switchedBack net net'
    ((Op.security (!t.secure)).after net t).secure = !t.secure ∧ t'.secure = t.secure ∧
    t'.sites = t.sites.map (fun (e, id) => (e.lapsed, id)) ∧
    (∀ e ∈ t.endpoints, e.lapsed.isSecure = (e.isSecure && (t.secure || !e.insists))) ∧
    (t'.network = t.network ↔ t.Undemanding) ∧
    ∀ network now, (t.replaceNetwork network now).1.isNoop = true →
      ∀ later, (t'.replaceNetwork network later).1.isNoop = true ↔ t.Undemanding := by
  intro t t'
  have h : t.Settled := settled_after o history
  refine ⟨(switched (by simp) net).2.2.2, secure_switchedBack t net net', h.sites_switchedBack net net',
    fun e he => Endpoint.isSecure_lapsed (h.placed e he), h.network_restored_iff net net', ?_⟩
  intro network now hnoop later
  rw [isNoop_iff] at hnoop ⊢
  exact h.installed_restored_iff hnoop net net'

/-- A demand on any other port outlives the switch. -/
theorem switchedBack_elsewhere :
    let network : List (Endpoint × AccountId) :=
      [(.remote "h" 8443 true, ⟨0, 0, 3⟩), (.remote "h" plainPort false, ⟨0, 0, 4⟩)]
    let t := (empty {}).after [({}, .replace network)]
    let t' := t.switchedBack {} {}
    t.Undemanding ∧ t'.network = t.network ∧ (t.replaceNetwork network 0).1.isNoop = true ∧
      (t'.replaceNetwork network 0).1.isNoop = true := by
  intro network t t'
  have hends : t.endpoints = [.remote "h" 8443 true, .remote "h" plainPort false] := by
    subst t network
    cbv
  have hu : t.Undemanding := by
    rw [Undemanding, hends]
    decide
  obtain ⟨-, -, -, -, hmap, hnoop⟩ := switchedBack_iff {} [({}, .replace network)] {} {}
  have hthere : (t.replaceNetwork network 0).1.isNoop = true := by
    subst t network
    cbv
  exact ⟨hu, hmap.mpr hu, hthere, (hnoop network 0 hthere 0).mpr hu⟩

/-- Under plain traffic a node whose TLS is demanded on the consensus port loses it to a switch to TLS and back, and
the network that put the node there is no longer in place. -/
theorem demand_lapses :
    let network : List (Endpoint × AccountId) := [(.remote "h" plainPort true, ⟨0, 0, 3⟩)]
    let t := (empty {}).after [({}, .replace network)]
    let t' := t.switchedBack {} {}
    t.network = network ∧ t'.network = [(.remote "h" plainPort false, ⟨0, 0, 3⟩)] ∧
      t.nodes.map (·.endpoint.isSecure) = [true] ∧ t'.nodes.map (·.endpoint.isSecure) = [false] ∧
      (t.replaceNetwork network 0).1.isNoop = true ∧ (t'.replaceNetwork network 0).1.isNoop = false := by
  refine ⟨?_, ?_, ?_, ?_, ?_, ?_⟩ <;> cbv

end Topology

end LedgerNet
