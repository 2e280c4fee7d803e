import LedgerNet.Proofs.Topology.Marks

/-!
A replacement of the node set as a difference of two maps: the nodes that stand for what is wanted stay as they are, the
others go, and what nobody stands for is entered. It does not matter in which order the wanted pairs are gone through.
-/
namespace LedgerNet

instance : Std.TransCmp (Identity.order (κ := EntityId)) :=
  inferInstanceAs (Std.TransCmp (compareLex (compareOn fun id : EntityId => id.shard.toNat)
    (compareLex (compareOn (·.realm.toNat)) (compareOn (·.num.toNat)))))

instance : Std.LawfulEqCmp (Identity.order (κ := EntityId)) where
  eq_of_compare {a b} h := by
    cases a
    cases b
    simpa [Identity.order, EntityId.order, UInt64.toNat_inj] using h

instance : Std.TransCmp (Identity.order (κ := String)) := inferInstanceAs (Std.TransCmp (compare (α := String)))

instance : Std.LawfulEqCmp (Identity.order (κ := String)) :=
  inferInstanceAs (Std.LawfulEqCmp (compare (α := String)))

namespace Topology

variable {κ : Type}

/-- Who a network wants at an endpoint under a mode of security: the last one it names there. -/
def named? (secure : Bool) (network : List (Endpoint × κ)) (e : Endpoint) : Option κ :=
  (network.map fun (e, id) => (e.withSecurity secure, id)).reverse.lookup e

/-- The pairs of a map, each once, in whichever order they are gone through. -/
structure Lists (pairs : List (Endpoint × κ)) (map : Endpoint → Option κ) : Prop where
  distinct : (pairs.map (·.1)).Nodup
  mem_iff : ∀ e id, (e, id) ∈ pairs ↔ map e = some id

theorem Lists.get? {pairs : List (Endpoint × κ)} {map : Endpoint → Option κ} (h : Lists pairs map) (e : Endpoint) :
    EndpointMap.get? pairs e = map e := by
  apply Option.ext
  intro id
  rw [← EndpointMap.mem_iff_get? h.distinct, h.mem_iff]

theorem desired_lists (secure : Bool) (network : List (Endpoint × κ)) :
    Lists (desired secure network) (named? secure network) := by
  have hdistinct := (EndpointMap.ofPairs_sorted (network.map fun (e, id) => (e.withSecurity secure, id))).nodup_keys
  refine ⟨hdistinct, fun e id => ?_⟩
  rw [desired, EndpointMap.mem_iff_get? hdistinct, EndpointMap.get?_ofPairs, named?]

/-- The order in which nodes are entered: by identity, and of one identity by endpoint. -/
def siteOrder [Identity κ] (a b : Endpoint × κ) : Ordering :=
  (Identity.order a.2 b.2).then (Endpoint.order a.1 b.1)

theorem transCmp_on {α β : Type} (cmp : β → β → Ordering) [Std.TransCmp cmp] (f : α → β) :
    Std.TransCmp fun a b => cmp (f a) (f b) where
  eq_swap := Std.OrientedCmp.eq_swap
  isLE_trans := Std.TransCmp.isLE_trans

instance [Identity κ] [Std.TransCmp (Identity.order (κ := κ))] : Std.TransCmp (siteOrder (κ := κ)) :=
  have := transCmp_on (α := Endpoint × κ) Identity.order (·.2)
  have := transCmp_on (α := Endpoint × κ) Endpoint.order (·.1)
  inferInstanceAs (Std.TransCmp (compareLex (fun a b : Endpoint × κ => Identity.order a.2 b.2)
    fun a b : Endpoint × κ => Endpoint.order a.1 b.1))

theorem eq_of_siteOrder [Identity κ] [Std.LawfulEqCmp (Identity.order (κ := κ))] {a b : Endpoint × κ}
    (h : siteOrder a b = .eq) : a = b := by
  simp only [siteOrder, Ordering.then_eq_eq, Std.LawfulEqCmp.compare_eq_iff_eq] at h
  exact Prod.ext h.2 h.1

section Missing

variable [Identity κ] [Std.TransCmp (Identity.order (κ := κ))]

theorem missing_sorted (wanted : EndpointMap κ) (nodes : List (Node κ)) :
    (missing wanted nodes).Pairwise fun a b => siteOrder a b ≠ .gt := by
  have htrans (a b c : Endpoint × κ) (hab : entryOrder a b = true) (hbc : entryOrder b c = true) :
      entryOrder a c = true := by
    simp only [entryOrder, bne_iff_ne] at *
    have hle : (siteOrder a c).isLE :=
      Std.TransCmp.isLE_trans (Ordering.isLE_iff_ne_gt.mpr hab) (Ordering.isLE_iff_ne_gt.mpr hbc)
    exact Ordering.isLE_iff_ne_gt.mp hle
  have htotal (a b : Endpoint × κ) : (entryOrder a b || entryOrder b a) = true := by
    simp only [entryOrder, Bool.or_eq_true, bne_iff_ne]
    by_cases hab : siteOrder a b = .gt
    · have hba : siteOrder b a ≠ .gt := Std.OrientedCmp.not_gt_of_gt hab
      exact .inr hba
    · exact .inl hab
  have hsorted := List.pairwise_mergeSort htrans htotal (wanted.filter fun (e, _) => !nodes.any (·.endpoint == e))
  exact hsorted.imp fun h => bne_iff_ne.mp h

variable [Std.LawfulEqCmp (Identity.order (κ := κ))]

/-- What is missing comes in ascending order, none of it twice. -/
theorem missing_ascending {wanted : EndpointMap κ} (h : (wanted.map (·.1)).Nodup) (nodes : List (Node κ)) :
    (missing wanted nodes).Pairwise fun a b => siteOrder a b = .lt := by
  have hnodup : (missing wanted nodes).Nodup :=
    (missing_perm _ _).nodup_iff.mpr ((List.Nodup.of_map _ h).filter _)
  refine ((missing_sorted wanted nodes).and hnodup).imp ?_
  intro a b ⟨hle, hne⟩
  cases ho : siteOrder a b with
  | lt => rfl
  | eq => exact absurd (eq_of_siteOrder ho) hne
  | gt => exact absurd ho hle

/-- What is missing does not depend on the order in which the wanted pairs are gone through. -/
theorem missing_eq {map : Endpoint → Option κ} {pairs pairs' : List (Endpoint × κ)} (h : Lists pairs map)
    (h' : Lists pairs' map) (nodes : List (Node κ)) : missing pairs nodes = missing pairs' nodes := by
  have hperm : pairs.Perm pairs' := by
    rw [List.perm_ext_iff_of_nodup (List.Nodup.of_map _ h.distinct) (List.Nodup.of_map _ h'.distinct)]
    rintro ⟨e, id⟩
    rw [h.mem_iff, h'.mem_iff]
  have hmissing : (missing pairs nodes).Perm (missing pairs' nodes) :=
    (missing_perm _ _).trans ((hperm.filter _).trans (missing_perm _ _).symm)
  refine List.Perm.eq_of_pairwise ?_ (missing_ascending h.distinct nodes) (missing_ascending h'.distinct nodes) hmissing
  intro a b _ _ hab hba
  rw [Std.OrientedCmp.gt_of_lt hab] at hba
  cases hba

end Missing

/-- Whether a node is where its identity is wanted. -/
def stays [DecidableEq κ] (wanted : Endpoint → Option κ) (n : Node κ) : Bool := wanted n.endpoint == some n.id

variable [DecidableEq κ] [Identity κ]

/-- The replacement of the node set by wanted pairs, gone through in the order in which they come. -/
def exchange (t : Topology κ) (pairs : List (Endpoint × κ)) (now : Instant) :
    NetworkChange × List ChannelId × Topology κ :=
  let (kept, gone) := t.nodes.partition (isWanted pairs)
  let added := missing pairs kept
  (⟨added.length, gone.length, kept.length⟩, gone.filterMap (·.channel),
    added.foldl (fun t pair => t.enter now pair) { t with nodes := kept })

theorem replaceNetwork_eq (t : Topology κ) (network : List (Endpoint × κ)) (now : Instant) :
    t.replaceNetwork network now = t.exchange (desired t.secure network) now := rfl

theorem exchange_eq (t : Topology κ) {pairs : List (Endpoint × κ)} {map : Endpoint → Option κ} (h : Lists pairs map)
    (now : Instant) : t.exchange pairs now =
      let kept := t.nodes.filter (stays map)
      let gone := t.nodes.filter fun n => !stays map n
      let added := missing pairs kept
      (⟨added.length, gone.length, kept.length⟩, gone.filterMap (·.channel),
        { t with nodes := kept ++ t.newcomers now added, nextSeq := t.nextSeq + added.length }) := by
  have hstays : isWanted pairs = stays map := by
    funext n
    rw [isWanted, h.get?, stays]
  simp only [exchange, List.partition_eq_filter_filter, hstays, enter_all]
  rfl

omit [DecidableEq κ] in
theorem missing_nil_iff {wanted : EndpointMap κ} {nodes : List (Node κ)} :
    missing wanted nodes = [] ↔ ∀ p ∈ wanted, ∃ n ∈ nodes, n.endpoint = p.1 := by
  rw [← List.length_eq_zero_iff, (missing_perm wanted nodes).length_eq, List.length_eq_zero_iff,
    List.filter_eq_nil_iff]
  simp

omit [Identity κ] in
theorem stays_iff {wanted : Endpoint → Option κ} {n : Node κ} :
    stays wanted n = true ↔ wanted n.endpoint = some n.id := by
  simp [stays]

omit [DecidableEq κ] [Identity κ] in
theorem mem_sites {t : Topology κ} {e : Endpoint} {id : κ} :
    (e, id) ∈ t.sites ↔ ∃ n ∈ t.nodes, n.endpoint = e ∧ n.id = id := by
  simp [sites]

/-- The nodes stand where a network wants them, and nowhere else. -/
def Installed (t : Topology κ) (network : List (Endpoint × κ)) : Prop :=
  ∀ e id, (e, id) ∈ t.sites ↔ named? t.secure network e = some id

/-- An installed network is put in place by leaving everything as it is. -/
theorem Installed.replace {t : Topology κ} {network : List (Endpoint × κ)} (h : t.Installed network) (now : Instant) :
    t.replaceNetwork network now = (⟨0, 0, t.nodes.length⟩, [], t) := by
  have hstay : ∀ n ∈ t.nodes, stays (named? t.secure network) n = true := fun n hn =>
    stays_iff.mpr ((h _ _).mp (mem_sites.mpr ⟨n, hn, rfl, rfl⟩))
  have hkept : t.nodes.filter (stays (named? t.secure network)) = t.nodes := List.filter_eq_self.mpr hstay
  have hgone : t.nodes.filter (fun n => !stays (named? t.secure network) n) = [] :=
    List.filter_eq_nil_iff.mpr fun n hn => by simp [hstay n hn]
  have hmissing : missing (desired t.secure network) t.nodes = [] := by
    refine missing_nil_iff.mpr fun p hp => ?_
    obtain ⟨n, hn, he, -⟩ := mem_sites.mp ((h p.1 p.2).mpr (((desired_lists _ _).mem_iff _ _).mp hp))
    exact ⟨n, hn, he⟩
  rw [replaceNetwork_eq, exchange_eq t (desired_lists t.secure network)]
  simp [hkept, hgone, hmissing, newcomers]

/-- Putting a network in place changes nothing exactly when it is in place. -/
theorem isNoop_iff (t : Topology κ) (network : List (Endpoint × κ)) (now : Instant) :
    (t.replaceNetwork network now).1.isNoop = true ↔ t.Installed network := by
  constructor
  · intro hnoop
    have hlists := desired_lists t.secure network
    rw [replaceNetwork_eq, exchange_eq t hlists] at hnoop
    simp only [NetworkChange.isNoop, Bool.and_eq_true, beq_iff_eq, List.length_eq_zero_iff] at hnoop
    obtain ⟨hmissing, hgone⟩ := hnoop
    intro e id
    rw [mem_sites, ← hlists.mem_iff]
    constructor
    · rintro ⟨n, hn, rfl, rfl⟩
      have hstays := List.filter_eq_nil_iff.mp hgone n hn
      exact (hlists.mem_iff _ _).mpr (stays_iff.mp (by simpa using hstays))
    · intro hp
      obtain ⟨n, hn, he⟩ := missing_nil_iff.mp hmissing _ hp
      obtain ⟨hn, hstays⟩ := List.mem_filter.mp hn
      have hid : some n.id = some id := by rw [← stays_iff.mp hstays, he, (hlists.mem_iff _ _).mp hp]
      exact ⟨n, hn, he, Option.some.inj hid⟩
  · intro h
    rw [h.replace now]
    rfl

/-- A network that was put in place is installed. -/
theorem replace_installed (t : Topology κ) (network : List (Endpoint × κ)) (now : Instant) :
    (t.replaceNetwork network now).2.2.Installed network := by
  have hlists := desired_lists t.secure network
  intro e id
  rw [replaceNetwork_eq, exchange_eq t hlists]
  simp only [sites, List.map_append, newcomers_sites, List.mem_append]
  constructor
  · rintro (hkept | hnew)
    · obtain ⟨n, hn, heq⟩ := List.mem_map.mp hkept
      cases heq
      exact stays_iff.mp (List.mem_filter.mp hn).2
    · exact (hlists.mem_iff e id).mp (missing_not_held hnew).1
  · intro hnamed
    by_cases hheld : ∃ n ∈ t.nodes.filter (stays (named? t.secure network)), n.endpoint = e
    · obtain ⟨n, hn, rfl⟩ := hheld
      have hid : some n.id = some id := by rw [← stays_iff.mp (List.mem_filter.mp hn).2, hnamed]
      exact .inl (List.mem_map.mpr ⟨n, hn, by rw [Option.some.inj hid]⟩)
    · refine .inr ((missing_perm _ _).mem_iff.mpr (List.mem_filter.mpr ⟨(hlists.mem_iff e id).mpr hnamed, ?_⟩))
      simpa using hheld

/-- What a replacement of the node set leaves and hands back, of nodes of which some were added, where `wanted` says who
is wanted where. -/
structure Exchanged (t : Topology κ) (wanted : Endpoint → Option κ) (now : Instant) (added : List (Node κ))
    (change : NetworkChange) (retired : List ChannelId) (t' : Topology κ) : Prop where
  /-- Nodes wanted where they are stay as they are, in their order; those added follow. Nothing else changes. -/
  nodes : t' = { t with nodes := t.nodes.filter (stays wanted) ++ added, nextSeq := t.nextSeq + added.length }
  sites : ∀ e id, (e, id) ∈ t'.sites ↔ wanted e = some id
  distinct : t'.Distinct
  ascending : (added.map fun n => (n.endpoint, n.id)).Pairwise fun a b => siteOrder a b = .lt
  numbered : added.map (·.seq) = List.range' t.nextSeq added.length
  fresh : ∀ n ∈ added,
    n.verify = t.verify ∧ n.entry = t.entryOf? n.id ∧ n.health = .fresh t.backoff now ∧ n.channel = none
  /-- The channels of the nodes that went, each once, and no others. -/
  retired : retired = (t.nodes.filter fun n => !stays wanted n).filterMap (·.channel)
  added : change.added = added.length
  after : change.added + change.unchanged = t'.nodes.length
  before : change.removed + change.unchanged = t.nodes.length

section Lawful

variable [Std.TransCmp (Identity.order (κ := κ))] [Std.LawfulEqCmp (Identity.order (κ := κ))]

theorem exchanged {t : Topology κ} (h : t.Distinct) (network : List (Endpoint × κ)) (now : Instant) :
    let (change, retired, t') := t.replaceNetwork network now
    ∃ added, Exchanged t (named? t.secure network) now added change retired t' := by
  have hlists := desired_lists t.secure network
  have hdistinct := h.replace_network network now
  have hinstalled := t.replace_installed network now
  have hlength (pairs : List (Endpoint × κ)) : (t.newcomers now pairs).length = pairs.length := by simp [newcomers]
  rw [replaceNetwork_eq, exchange_eq t hlists] at hdistinct hinstalled ⊢
  refine ⟨t.newcomers now (missing (desired t.secure network) (t.nodes.filter (stays (named? t.secure network)))),
    ⟨by rw [hlength], hinstalled, hdistinct, ?_, by rw [newcomers_seqs, hlength], ?_, rfl, by rw [hlength], ?_, ?_⟩⟩
  · rw [newcomers_sites]
    exact missing_ascending hlists.distinct _
  · intro n hn
    obtain ⟨⟨⟨e, id⟩, seq⟩, -, rfl⟩ := List.mem_map.mp hn
    exact ⟨rfl, rfl, rfl, rfl⟩
  · rw [List.length_append, hlength, Nat.add_comm]
  · rw [Nat.add_comm]
    exact (List.length_eq_length_filter_add _).symm

/-- A replacement of the node set is the difference of what is there and what is wanted: no more is touched than that
takes, doing it again does nothing, and it is the same in whichever order the wanted pairs are gone through. -/
theorem replaceNetwork_exchanges {t : Topology κ} (h : t.Distinct) (network : List (Endpoint × κ)) (now : Instant) :
    let (change, retired, t') := t.replaceNetwork network now
    (∃ added, Exchanged t (named? t.secure network) now added change retired t') ∧
    (∀ later, t'.replaceNetwork network later = (⟨0, 0, t'.nodes.length⟩, [], t')) ∧
    ∀ pairs, Lists pairs (named? t.secure network) → t.exchange pairs now = (change, retired, t') := by
  refine ⟨exchanged h network now, fun later => (t.replace_installed network now).replace later, ?_⟩
  intro pairs hpairs
  have hlists := desired_lists t.secure network
  change t.exchange pairs now = t.exchange (desired t.secure network) now
  simp only [exchange_eq t hpairs, exchange_eq t hlists, missing_eq hpairs hlists]

end Lawful

/-- Three nodes, of which the first has an open channel. -/
def threeNodes : Topology AccountId :=
  (empty {}).after [({}, .lease ⟨0, 0, 3⟩), ({}, .replace [(.remote "h" plainPort false, ⟨0, 0, 3⟩),
    (.remote "h" 1 false, ⟨0, 0, 4⟩), (.remote "h" 2 false, ⟨0, 0, 5⟩)])]

/-- Two identities are named at what is one endpoint under plain traffic, and the node of the last one stays; another
node's endpoint is given to a new identity, and a third node is gone. -/
theorem replaceNetwork_threeNodes :
    let network : List (Endpoint × AccountId) := [(.remote "h" tlsPort true, ⟨0, 0, 6⟩),
      (.remote "h" plainPort false, ⟨0, 0, 3⟩), (.remote "h" 1 false, ⟨0, 0, 7⟩)]
    let (change, retired, t') := threeNodes.replaceNetwork network 5
    change = ⟨1, 2, 1⟩ ∧ (∃ added, Exchanged threeNodes (named? threeNodes.secure network) 5 added change retired t') ∧
      ∀ later, t'.replaceNetwork network later = (⟨0, 0, 2⟩, [], t') := by
  intro network
  have hends : threeNodes.endpoints = [.remote "h" plainPort false, .remote "h" 1 false, .remote "h" 2 false] := by cbv
  have hdistinct : threeNodes.Distinct := by
    rw [Distinct, hends]
    decide
  have hchange : (threeNodes.replaceNetwork network 5).1 = ⟨1, 2, 1⟩ := by cbv
  have hcount : (threeNodes.replaceNetwork network 5).2.2.nodes.length = 2 := by cbv
  obtain ⟨hadded, hagain, -⟩ := replaceNetwork_exchanges hdistinct network 5
  exact ⟨hchange, hadded, fun later => hcount ▸ hagain later⟩

end Topology

end LedgerNet
