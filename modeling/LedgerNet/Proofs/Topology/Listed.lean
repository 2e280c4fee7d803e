import LedgerNet.Proofs.Endpoint.Stored
import LedgerNet.Proofs.Topology.Difference

/-!
Mirrors as an operator lists them, each known by the text of its address. The nodes are those of the list where plain
traffic leaves the addresses as they are. It does so but for the TLS consensus port, which no mirror is left on.
-/
namespace LedgerNet

namespace Endpoint

/-- An address that plain traffic moves has another text. -/
theorem text_toInsecure {e : Endpoint} : e.toInsecure.text = e.text ↔ e.toInsecure = e := by
  refine ⟨fun htext => toInsecure_eq_self.mpr ?_, fun h => congrArg text h⟩
  intro htls
  cases e with
  | inProcess name => cases htls
  | remote host port secure =>
    cases htls
    have hdigits := congrArg String.toList htext
    simp only [toInsecure, if_true, text_remote, List.append_cancel_left_eq] at hdigits
    revert hdigits
    decide

end Endpoint

namespace Topology

/-- The mirrors that some addresses name. -/
def listing (addresses : List Endpoint) : List (Endpoint × String) := addresses.map fun e => (e, e.text)

/-- The nodes are the addresses of a list as they are written there. -/
structure AsListed (addresses : List Endpoint) (t : Topology String) : Prop where
  /-- Each node stands where its name says. -/
  named : ∀ n ∈ t.nodes, n.endpoint.text = n.id
  /-- Each address has one node, however often it is listed. -/
  once : (t.nodes.map (·.id)).Perm (addresses.dedup.map Endpoint.text)

/-- Nodes put in place under plain traffic for a list of addresses that were read. They do not go for failing. -/
structure Serves (addresses : List Endpoint) (t : Topology String) : Prop where
  read : ∀ a ∈ addresses, Endpoint.parse a.text = .ok a
  settled : t.Settled
  distinct : t.Distinct
  plain : t.secure = false
  lasting : t.maxFailures = none
  installed : t.Installed (listing addresses)

section Keeps

variable {κ : Type}

/-- If no node ever goes for failing, everybody stands where they stood. -/
def Keeps (t t' : Topology κ) : Prop :=
  t.Settled → t.maxFailures = none →
    t'.Settled ∧ t'.maxFailures = none ∧ t'.secure = t.secure ∧ t'.sites = t.sites

theorem Keeps.refl (t : Topology κ) : t.Keeps t := fun hs hm => ⟨hs, hm, rfl, rfl⟩

theorem Keeps.trans {t t' t'' : Topology κ} (h : t.Keeps t') (h' : t'.Keeps t'') : t.Keeps t'' := by
  intro hs hm
  obtain ⟨hs', hm', hsecure, hsites⟩ := h hs hm
  obtain ⟨hs'', hm'', hsecure', hsites'⟩ := h' hs' hm'
  exact ⟨hs'', hm'', hsecure'.trans hsecure, hsites'.trans hsites⟩

theorem keeps_leaseNext (t : Topology κ) (net : LocalNet) : t.Keeps (t.leaseNext net).2.1 := by
  intro hs hm
  have hl := hs.leases_next net
  have hsame : (t.leaseNext net).2.1.maxFailures = t.maxFailures := by
    cases hl with
    | same turn eq => rw [eq]
    | opens turn n mem idle eq => rw [eq]
  exact ⟨(hs.lease_next net).settled hs, hsame.trans hm, (hs.lease_next net).secure, hs.sites_lease hl⟩

theorem keeps_markSuccess (t : Topology κ) (endpoint : Endpoint) (now : Instant) :
    t.Keeps (t.markSuccess endpoint now) := by
  intro hs hm
  have hsites : (t.markSuccess endpoint now).sites = t.sites := map_updateAt _ (by intro n; rfl) _ _
  exact ⟨(Within.of_update (by intro n; rfl) (by intro n; rfl) endpoint).settled hs, hm, rfl, hsites⟩

/-- A failure benches a node, and removes it only where there is a bound on failures. -/
theorem keeps_markFailure [Identity κ] (t : Topology κ) (endpoint : Endpoint) (net : LocalNet) :
    t.Keeps (t.markFailure endpoint net).2.1 := by
  intro hs hm
  have hstays : (t.markFailure endpoint net).2.1 = t ∨ ∃ health, (t.markFailure endpoint net).2.1 =
      { t with nodes := updateAt endpoint (fun n => { n with health }) t.nodes } := by
    unfold markFailure
    split
    · exact .inl rfl
    · rename_i n _
      exact .inr ⟨n.health.fail t.backoff net.now, by simp [hm]⟩
  rcases hstays with heq | ⟨health, heq⟩
  · rw [heq]
    exact Keeps.refl t hs hm
  · rw [heq]
    have hsites := map_updateAt (fun n : Node κ => (n.endpoint, n.id)) (g := fun n => { n with health })
      (by intro n; rfl) endpoint t.nodes
    exact ⟨(Within.of_update (by intro n; rfl) (by intro n; rfl) endpoint).settled hs, hm, rfl, hsites⟩

end Keeps

namespace Serves

variable {addresses : List Endpoint} {t : Topology String}

theorem keep (h : t.Serves addresses) {t' : Topology String} (hk : t.Keeps t') : t'.Serves addresses := by
  obtain ⟨hsettled, hlasting, hsecure, hsites⟩ := hk h.settled h.lasting
  have hends := endpoints_of_sites hsites
  refine ⟨h.read, hsettled, ?_, hsecure.trans h.plain, hlasting, ?_⟩
  · rw [Distinct, hends]
    exact h.distinct
  · intro e id
    rw [hsites, hsecure]
    exact h.installed e id

/-- No nodes are what an empty list names. -/
theorem of_nil (hnil : t.nodes = []) (hplain : t.secure = false) (hlasting : t.maxFailures = none) : t.Serves [] := by
  have hends : t.endpoints = [] := by rw [endpoints, hnil, List.map_nil]
  have hseqs : t.seqs = [] := by rw [seqs, hnil, List.map_nil]
  refine ⟨List.forall_mem_nil _, ⟨?_, ?_, ?_⟩, ?_, hplain, hlasting, ?_⟩
  · simp [hends]
  · simp [hseqs]
  · simp [hseqs]
  · simp [Distinct, hends]
  · intro e id
    simp [sites, hnil, named?, listing]

theorem clear (h : t.Serves addresses) : t.clear.2.Serves [] := of_nil rfl h.plain h.lasting

/-- A new list takes the place of the old one. -/
theorem replace (h : t.Serves addresses) {addresses' : List Endpoint}
    (hread : ∀ a ∈ addresses', Endpoint.parse a.text = .ok a) (now : Instant) :
    (t.replaceNetwork (listing addresses') now).2.2.Serves addresses' := by
  obtain ⟨hsecure, hmax⟩ : (t.replaceNetwork (listing addresses') now).2.2.secure = t.secure ∧
      (t.replaceNetwork (listing addresses') now).2.2.maxFailures = t.maxFailures := by
    rw [replace_eq, enter_all]
    exact ⟨rfl, rfl⟩
  exact ⟨hread, h.settled.replace_network _ now, h.distinct.replace_network _ now, hsecure.trans h.plain,
    hmax.trans h.lasting, t.replace_installed _ now⟩

/-- Each node stands for an address of the list, where plain traffic puts it. -/
theorem listed (h : t.Serves addresses) {n : Node String} (hn : n ∈ t.nodes) :
    ∃ a ∈ addresses, a.toInsecure = n.endpoint ∧ a.text = n.id := by
  have hnamed := (h.installed n.endpoint n.id).mp (mem_sites.mpr ⟨n, hn, rfl, rfl⟩)
  obtain ⟨before, after, heq, -⟩ := List.lookup_eq_some_iff.mp hnamed
  have hmem : (n.endpoint, n.id) ∈ (listing addresses).map fun (e, id) => (e.withSecurity t.secure, id) :=
    List.mem_reverse.mp (by simp [heq])
  simp only [h.plain, listing, List.map_map] at hmem
  obtain ⟨a, ha, hat⟩ := List.mem_map.mp hmem
  exact ⟨a, ha, congrArg (·.1) hat, congrArg (·.2) hat⟩

/-- Nodes stand where plain traffic puts the addresses of the list, and nowhere else. -/
theorem mem_endpoints (h : t.Serves addresses) (e : Endpoint) :
    e ∈ t.endpoints ↔ ∃ a ∈ addresses, a.toInsecure = e := by
  have hsome : (∃ id, named? t.secure (listing addresses) e = some id) ↔ ∃ a ∈ addresses, a.toInsecure = e := by
    simp only [named?, ← EndpointMap.get?_ofPairs, EndpointMap.get?_ofPairs_some_iff, listing, List.map_map, h.plain]
    exact List.mem_map
  rw [← hsome]
  constructor
  · intro he
    obtain ⟨n, hn, rfl⟩ := List.mem_map.mp he
    exact ⟨n.id, (h.installed _ _).mp (mem_sites.mpr ⟨n, hn, rfl, rfl⟩)⟩
  · rintro ⟨id, hid⟩
    obtain ⟨n, hn, rfl, -⟩ := mem_sites.mp ((h.installed e id).mpr hid)
    exact List.mem_map_of_mem hn

/-- Nodes are the addresses as they are listed exactly when none of these is on the TLS consensus port: plain traffic
moves such an address, and leaves its name behind. -/
theorem asListed_iff (h : t.Serves addresses) : t.AsListed addresses ↔ ∀ a ∈ addresses, a.port? ≠ some tlsPort := by
  constructor
  · intro hl a ha
    have hid : a.text ∈ t.nodes.map (·.id) :=
      hl.once.mem_iff.mpr (List.mem_map_of_mem (List.mem_dedup.mpr ha))
    obtain ⟨n, hn, hna⟩ := List.mem_map.mp hid
    obtain ⟨b, hb, hat, hnb⟩ := h.listed hn
    have hab : b = a := by
      have hok : Except.ok b = (.ok a : Except Endpoint.Fault Endpoint) := by
        rw [← h.read b hb, ← h.read a ha, hnb, hna]
      exact Except.ok.inj hok
    subst hab
    refine Endpoint.toInsecure_eq_self.mp (Endpoint.text_toInsecure.mp ?_)
    rw [hat, hl.named n hn, hnb]
  · intro hports
    have hstays : ∀ a ∈ addresses, a.toInsecure = a := fun a ha => Endpoint.toInsecure_eq_self.mpr (hports a ha)
    have hnamed : ∀ n ∈ t.nodes, n.endpoint.text = n.id := by
      intro n hn
      obtain ⟨a, ha, hat, hna⟩ := h.listed hn
      rw [← hat, hstays a ha, hna]
    have hends : t.endpoints.Perm addresses.dedup := by
      rw [List.perm_ext_iff_of_nodup h.distinct addresses.nodup_dedup]
      intro e
      rw [h.mem_endpoints, List.mem_dedup]
      constructor
      · rintro ⟨a, ha, rfl⟩
        rwa [hstays a ha]
      · intro he
        exact ⟨e, he, hstays e he⟩
    refine ⟨hnamed, ?_⟩
    have hids : t.nodes.map (·.id) = t.endpoints.map Endpoint.text := by
      rw [endpoints, List.map_map]
      exact List.map_congr_left fun n hn => (hnamed n hn).symm
    rw [hids]
    exact hends.map _

end Serves

end Topology

end LedgerNet
