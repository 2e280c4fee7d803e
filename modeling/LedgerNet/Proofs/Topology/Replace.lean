import LedgerNet.Proofs.Topology.Operations

/-! What a replacement of the node set leaves: the nodes that stay, then one new node for each wanted endpoint that
none of them holds. -/
namespace LedgerNet.Topology

variable {κ : Type} [DecidableEq κ] [Identity κ]

/-- The nodes that are entered for some pairs, numbered on from those that were entered before. -/
def newcomers (t : Topology κ) (now : Instant) (pairs : List (Endpoint × κ)) : List (Node κ) :=
  (pairs.zipIdx t.nextSeq).map fun ((endpoint, id), seq) =>
    { id, endpoint, verify := t.verify, entry := t.entryOf? id, health := .fresh t.backoff now, seq }

omit [Identity κ] in
theorem newcomers_seqs (t : Topology κ) (now : Instant) (pairs : List (Endpoint × κ)) :
    (t.newcomers now pairs).map (·.seq) = List.range' t.nextSeq pairs.length := by
  rw [newcomers, List.map_map, ← List.zipIdx_map_snd]
  rfl

omit [Identity κ] in
theorem newcomers_sites (t : Topology κ) (now : Instant) (pairs : List (Endpoint × κ)) :
    (t.newcomers now pairs).map (fun n => (n.endpoint, n.id)) = pairs := by
  rw [newcomers, List.map_map]
  exact List.zipIdx_map_fst t.nextSeq pairs

omit [Identity κ] in
theorem enter_all (now : Instant) (pairs : List (Endpoint × κ)) (t : Topology κ) :
    pairs.foldl (fun t pair => t.enter now pair) t =
      { t with nodes := t.nodes ++ t.newcomers now pairs, nextSeq := t.nextSeq + pairs.length } := by
  induction pairs generalizing t with
  | nil => simp [newcomers]
  | cons pair rest ih =>
    rw [List.foldl_cons, ih]
    simp [enter, newcomers, entryOf?, List.zipIdx_cons]
    omega

omit [Identity κ] in
/-- New nodes are entered behind those that are there, numbered on from them. -/
theorem entered (now : Instant) (pairs : List (Endpoint × κ)) (t : Topology κ) :
    (pairs.foldl (fun t pair => t.enter now pair) t).endpoints = t.endpoints ++ pairs.map (·.1) ∧
    (pairs.foldl (fun t pair => t.enter now pair) t).seqs = t.seqs ++ List.range' t.nextSeq pairs.length ∧
    (pairs.foldl (fun t pair => t.enter now pair) t).nextSeq = t.nextSeq + pairs.length ∧
    (pairs.foldl (fun t pair => t.enter now pair) t).secure = t.secure := by
  have hends : (t.newcomers now pairs).map (·.endpoint) = pairs.map (·.1) := by
    have hsites := congrArg (List.map (·.1)) (newcomers_sites t now pairs)
    rwa [List.map_map] at hsites
  rw [enter_all]
  refine ⟨?_, ?_, rfl, rfl⟩
  · rw [endpoints, List.map_append, hends, endpoints]
  · rw [seqs, List.map_append, newcomers_seqs, seqs]

/-- Whether a node is at an endpoint where its identity is wanted. -/
def isWanted (wanted : EndpointMap κ) (n : Node κ) : Bool := wanted.get? n.endpoint == some n.id

/-- The wanted pairs that no node stands for yet, in the order in which they are entered. -/
def missing (wanted : EndpointMap κ) (nodes : List (Node κ)) : List (Endpoint × κ) :=
  (wanted.filter fun (e, _) => !nodes.any (·.endpoint == e)).mergeSort entryOrder

theorem replace_eq (t : Topology κ) (network : List (Endpoint × κ)) (now : Instant) :
    (t.replaceNetwork network now).2.2 =
      (missing (desired t.secure network) (t.nodes.filter (isWanted (desired t.secure network)))).foldl
        (fun t pair => t.enter now pair)
        { t with nodes := t.nodes.filter (isWanted (desired t.secure network)) } := by
  simp only [replaceNetwork, List.partition_eq_filter_filter]
  rfl

omit [DecidableEq κ] in
theorem missing_perm (wanted : EndpointMap κ) (nodes : List (Node κ)) :
    (missing wanted nodes).Perm (wanted.filter fun (e, _) => !nodes.any (·.endpoint == e)) :=
  List.mergeSort_perm _ _

omit [DecidableEq κ] [Identity κ] in
/-- Every wanted endpoint suits the mode of security. -/
theorem desired_placed {secure : Bool} {network : List (Endpoint × κ)} {p : Endpoint × κ}
    (hp : p ∈ desired secure network) : p.1.withSecurity secure = p.1 := by
  obtain ⟨⟨e, id⟩, -, rfl⟩ := List.mem_map.mp (EndpointMap.mem_of_mem_ofPairs _ _ hp)
  exact e.withSecurity_idem secure

omit [DecidableEq κ] in
theorem missing_nodup {secure : Bool} {network : List (Endpoint × κ)} (nodes : List (Node κ)) :
    ((missing (desired secure network) nodes).map (·.1)).Nodup := by
  have hk : ((desired secure network).map (·.1)).Nodup := (EndpointMap.ofPairs_sorted _).nodup_keys
  exact ((missing_perm _ nodes).map _).nodup_iff.mpr (hk.sublist (List.filter_sublist.map _))

omit [DecidableEq κ] in
/-- No missing endpoint is held by one of the nodes. -/
theorem missing_not_held {wanted : EndpointMap κ} {nodes : List (Node κ)} {p : Endpoint × κ}
    (hp : p ∈ missing wanted nodes) : p ∈ wanted ∧ ∀ n ∈ nodes, n.endpoint ≠ p.1 := by
  obtain ⟨hw, hn⟩ := List.mem_filter.mp ((missing_perm _ _).mem_iff.mp hp)
  refine ⟨hw, ?_⟩
  intro n hm he
  have : nodes.any (·.endpoint == p.1) = true := List.any_eq_true.mpr ⟨n, hm, by simp [he]⟩
  simp [this] at hn

theorem Settled.replace_network {t : Topology κ} (h : t.Settled) (network : List (Endpoint × κ)) (now : Instant) :
    (t.replaceNetwork network now).2.2.Settled := by
  rw [replace_eq]
  generalize hw : desired t.secure network = wanted
  generalize hk : t.nodes.filter (isWanted wanted) = kept
  have hsub : kept.Sublist t.nodes := hk ▸ List.filter_sublist
  obtain ⟨he, hs, hn, hm⟩ := entered now (missing wanted kept) { t with nodes := kept }
  refine ⟨?_, ?_, ?_⟩
  · intro e hmem
    rw [hm]
    rw [he] at hmem
    rcases List.mem_append.mp hmem with hmem | hmem
    · exact h.placed e ((hsub.map _).subset hmem)
    · obtain ⟨p, hp, rfl⟩ := List.mem_map.mp hmem
      exact desired_placed (hw ▸ (missing_not_held hp).1)
  · rw [hs, List.pairwise_append]
    refine ⟨h.ordered.sublist (hsub.map _), List.pairwise_lt_range', ?_⟩
    intro a ha b hb
    exact Nat.lt_of_lt_of_le (h.bound a ((hsub.map _).subset ha)) (List.mem_range'_1.mp hb).1
  · intro s hmem
    rw [hn]
    rw [hs] at hmem
    rcases List.mem_append.mp hmem with hmem | hmem
    · exact Nat.lt_of_lt_of_le (h.bound s ((hsub.map _).subset hmem)) (Nat.le_add_right _ _)
    · exact (List.mem_range'_1.mp hmem).2

theorem Distinct.replace_network {t : Topology κ} (h : t.Distinct) (network : List (Endpoint × κ))
    (now : Instant) : (t.replaceNetwork network now).2.2.Distinct := by
  rw [replace_eq, Distinct, (entered _ _ _).1, List.nodup_append]
  refine ⟨h.sublist (List.filter_sublist.map _), missing_nodup _, ?_⟩
  intro a ha b hb he
  obtain ⟨n, hn, rfl⟩ := List.mem_map.mp ha
  obtain ⟨p, hp, rfl⟩ := List.mem_map.mp hb
  exact (missing_not_held hp).2 n hn he

end LedgerNet.Topology
