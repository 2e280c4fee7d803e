import LedgerNet.Proofs.Topology.Marks
import LedgerNet.Proofs.Topology.Selecting

/-!
A topology as a queue. The identity that ranks first is served, and its success puts it behind all that were eligible
before; so when each identity has one node, every one of them is served before any is served again. The success is
marked at the endpoint, which has to stand for the node alone.
-/
namespace LedgerNet

/-- The node without its channel, of which ranks know nothing. -/
def Node.bare {κ : Type} (n : Node κ) : Node κ := { n with channel := none }

namespace Topology

variable {κ : Type}

/-- The node, as the success of a node of some identity leaves it. -/
def succeeded [DecidableEq κ] (id : κ) (p : BackoffPolicy) (now : Instant) (n : Node κ) : Node κ :=
  if n.id = id then { n with health := n.health.succeed p now } else n

/-- No identity has two nodes, and all nodes can be tried. -/
structure Fair (t : Topology κ) (now : Instant) : Prop where
  settled : t.Settled
  single : (t.nodes.map (·.id)).Nodup
  eligible : ∀ n ∈ t.nodes, n.health.eligibleAt ≤ now

variable [DecidableEq κ]

/-- The identity that ranks first is served: its node is leased, and a success is marked where the node stands. -/
structure ServesFirst (t : Topology κ) (now : Instant) (id : κ) (t' : Topology κ) : Prop where
  first : t.rankedIds.head? = some id
  marked : ∃ n net, t.bestOf? id = some n ∧ t' = (t.lease id net).2.1.markSuccess n.endpoint now

/-- The identities that are served one after the other, each later than the one before. -/
inductive Served : Topology κ → Instant → List κ → Prop where
  | none (t : Topology κ) (now : Instant) : Served t now []
  | next {t t' : Topology κ} {now now' : Instant} {id : κ} {ids : List κ} (serves : t.ServesFirst now' id t')
      (later : now < now') (rest : Served t' now' ids) : Served t now (id :: ids)

variable {t t' : Topology κ} {now now' : Instant} {id other : κ} {n m : Node κ} {ids : List κ}

/-- No node ranks before the best node of the identity that ranks first. -/
theorem Settled.head_foremost (h : t.Settled) (hid : t.rankedIds.head? = some id) (hn : t.bestOf? id = some n) :
    ∀ m ∈ t.nodes, m.before n = false := by
  intro m hm
  by_cases hmid : m.id = id
  · exact Node.best_foremost hn m (mem_nodesOf.mpr ⟨hm, hmid⟩)
  · obtain ⟨rest, hranked⟩ := List.head?_eq_some_iff.mp hid
    have hmem : m.id ∈ t.rankedIds :=
      t.rankedIds_perm.mem_iff.mpr (mem_ids.mpr (contains_iff.mpr ⟨m, hm, rfl⟩))
    have hpairwise : t.rankedIds.Pairwise t.Outranks := h.ranked_pairwise t.nodup_ids fun _ hid => mem_ids.mp hid
    rw [hranked] at hmem hpairwise
    have hrest : m.id ∈ rest := (List.mem_cons.mp hmem).resolve_left hmid
    obtain ⟨n', best, hn', hbest, hbefore⟩ := List.rel_of_pairwise_cons hpairwise hrest
    obtain rfl := (h.foremost hn).unique hn'
    have hahead := Node.not_before_of_before hbefore
    by_cases heq : m = best
    · rwa [heq]
    · exact Node.not_before_trans hahead (Node.not_before_of_before (hbest.first m hm rfl heq))

/-- Leasing changes nothing of the nodes but their channels. -/
theorem Settled.bare_lease (h : t.Settled) (id : κ) (net : LocalNet) :
    (t.lease id net).2.1.nodes.map Node.bare = t.nodes.map Node.bare ∧ (t.lease id net).2.1.backoff = t.backoff := by
  cases h.leases id net with
  | same turn eq channels =>
    rw [eq]
    exact ⟨rfl, rfl⟩
  | opens turn n mem idle eq channels =>
    rw [eq]
    exact ⟨h.map_replace Node.bare mem rfl rfl, rfl⟩

/-- A success at an endpoint is that of the identity of whoever stands there first. -/
theorem updateAt_succeeded {nodes : List (Node κ)} {endpoint : Endpoint} {f : Node κ} (p : BackoffPolicy)
    (hsingle : (nodes.map (·.id)).Nodup) (hf : nodes.find? (·.endpoint == endpoint) = some f) :
    updateAt endpoint (fun n => { n with health := n.health.succeed p now }) nodes =
      nodes.map (succeeded f.id p now) := by
  obtain ⟨before, after, rfl, hupdate, -⟩ := nodeAt_split hf
  rw [List.map_append, List.map_cons, List.nodup_append, List.nodup_cons] at hsingle
  obtain ⟨-, ⟨hafter, -⟩, hcross⟩ := hsingle
  have hkept (others : List (Node κ)) (hothers : ∀ m ∈ others, m.id ≠ f.id) :
      others.map (succeeded f.id p now) = others :=
    (List.map_congr_left fun m hm => if_neg (hothers m hm)).trans (List.map_id others)
  rw [hupdate, List.map_append, List.map_cons, hkept before, hkept after, succeeded, if_pos rfl]
  · exact fun m hm heq => hafter (heq ▸ List.mem_map_of_mem hm)
  · exact fun m hm heq => hcross m.id (List.mem_map_of_mem hm) f.id List.mem_cons_self heq

omit [DecidableEq κ] in
theorem bare_updateAt (endpoint : Endpoint) (p : BackoffPolicy) (nodes : List (Node κ)) :
    (updateAt endpoint (fun n => { n with health := n.health.succeed p now }) nodes).map Node.bare =
      updateAt endpoint (fun n => { n with health := n.health.succeed p now }) (nodes.map Node.bare) := by
  induction nodes with
  | nil => rfl
  | cons n rest ih =>
    have hat : n.bare.endpoint = n.endpoint := rfl
    simp only [updateAt, List.map_cons, hat]
    split
    · rfl
    · rw [List.map_cons, ih]

/-- What serving an identity does: the node of an identity that has succeeded is put back, and nothing else changes.
The node that was served ranked first. -/
theorem Fair.serve_cases (h : t.Fair now) (hserves : t.ServesFirst now' id t') : ∃ n ∈ t.nodes, n.id = id ∧
    (∀ m ∈ t.nodes, m.before n = false) ∧ ∃ f, t.nodeAt? n.endpoint = some f ∧
      t'.nodes.map Node.bare = t.nodes.map fun m => (succeeded f.id t.backoff now' m).bare := by
  obtain ⟨hfirst, n, net, hn, rfl⟩ := hserves
  obtain ⟨hmem, hid⟩ := bestOf_some hn
  obtain ⟨hbare, hbackoff⟩ := h.settled.bare_lease id net
  obtain ⟨f, hf⟩ : ∃ f, t.nodeAt? n.endpoint = some f :=
    Option.isSome_iff_exists.mp (List.find?_isSome.mpr ⟨n, hmem, beq_self_eq_true _⟩)
  refine ⟨n, hmem, hid, h.settled.head_foremost hfirst hn, f, hf, ?_⟩
  rw [markSuccess, hbackoff, bare_updateAt, hbare, ← bare_updateAt, updateAt_succeeded _ h.single hf, List.map_map]
  rfl

/-- Serving an identity moves no node, and leaves all of them eligible. -/
theorem Fair.serve (h : t.Fair now) (hserves : t.ServesFirst now' id t') (hlater : now < now') :
    t'.Fair now' ∧ t'.sites = t.sites := by
  obtain ⟨n, -, -, -, f, -, hbare⟩ := h.serve_cases hserves
  have hsites : t'.sites = t.sites := by
    have hcongr := congrArg (List.map fun m : Node κ => (m.endpoint, m.id)) hbare
    rw [List.map_map, List.map_map] at hcongr
    refine hcongr.trans (List.map_congr_left fun m _ => ?_)
    simp only [Function.comp, succeeded, Node.bare]
    split <;> rfl
  refine ⟨⟨?_, ?_, ?_⟩, hsites⟩
  · obtain ⟨-, n, net, -, rfl⟩ := hserves
    have hmarked : Within ((t.lease id net).2.1.markSuccess n.endpoint now') (t.lease id net).2.1 :=
      .of_update (by intro n; rfl) (by intro n; rfl) n.endpoint
    exact hmarked.settled ((h.settled.lease id net).settled h.settled)
  · rw [ids_of_sites hsites]
    exact h.single
  · intro m' hm'
    have hmem : m'.bare ∈ t'.nodes.map Node.bare := List.mem_map_of_mem hm'
    rw [hbare] at hmem
    obtain ⟨m, hm, heq⟩ := List.mem_map.mp hmem
    have hhealth : m'.bare.health = (succeeded f.id t.backoff now' m).bare.health := congrArg (·.health) heq.symm
    refine Nat.le_trans (le_of_eq (congrArg NodeHealth.eligibleAt hhealth)) ?_
    simp only [Node.bare, succeeded]
    split
    · exact Nat.le_refl now'
    · exact Nat.le_trans (h.eligible m hm) (Nat.le_of_lt hlater)

omit [DecidableEq κ] in
theorem distinct_of_sites (hsites : t'.sites = t.sites) (hd : t.Distinct) : t'.Distinct := by
  rwa [Distinct, endpoints_of_sites hsites]

omit [DecidableEq κ] in
theorem length_of_sites (hsites : t'.sites = t.sites) : t'.nodes.length = t.nodes.length := by
  simpa [sites] using congrArg List.length hsites

/-- What is found of a node after a success. -/
theorem of_succeeded {p : BackoffPolicy} (h : (succeeded id p now n).bare = m.bare) :
    n.id = m.id ∧ (n.id = id → m.health.eligibleAt = now) ∧ (n.id ≠ id → n.bare = m.bare) := by
  unfold succeeded at h
  split at h
  · rename_i hid
    exact ⟨congrArg (·.id) h, fun _ => congrArg (·.health.eligibleAt) h.symm, fun hne => absurd hid hne⟩
  · rename_i hne
    exact ⟨congrArg (·.id) h, fun hid => absurd hid hne, fun _ => h⟩

/-- Where no two nodes share an endpoint, the identity that is served is put behind, and the others stay. -/
structure Requeues (t : Topology κ) (now : Instant) (id : κ) (t' : Topology κ) : Prop where
  soonest : ∃ n ∈ t.nodes, n.id = id ∧ ∀ m ∈ t.nodes, n.health.eligibleAt ≤ m.health.eligibleAt
  behind : ∀ m ∈ t'.nodes, m.id = id → m.health.eligibleAt = now
  kept : ∀ m ∈ t'.nodes, m.id ≠ id → ∃ n ∈ t.nodes, n.id = m.id ∧ n.health = m.health
  stay : ∀ n ∈ t.nodes, n.id ≠ id → ∃ m ∈ t'.nodes, n.id = m.id ∧ n.health = m.health

theorem Fair.requeues (h : t.Fair now) (hd : t.Distinct) (hserves : t.ServesFirst now' id t') :
    t.Requeues now' id t' := by
  obtain ⟨n, hn, rfl, hfirst, f, hf, hbare⟩ := h.serve_cases hserves
  have hsame : f = n :=
    List.inj_on_of_nodup_map hd (List.mem_of_find?_eq_some hf) hn (by simpa using List.find?_some hf)
  subst hsame
  have hback (m : Node κ) (hm : m ∈ t'.nodes) : ∃ n ∈ t.nodes, (succeeded f.id t.backoff now' n).bare = m.bare :=
    List.mem_map.mp (hbare ▸ List.mem_map_of_mem hm)
  refine ⟨⟨f, hn, rfl, fun m hm => Node.eligibleAt_le_of_not_before (hfirst m hm)⟩, ?_, ?_, ?_⟩
  · intro m hm hid
    obtain ⟨n, -, heq⟩ := hback m hm
    obtain ⟨hsame, hmarked, -⟩ := of_succeeded heq
    exact hmarked (hsame.trans hid)
  · intro m hm hne
    obtain ⟨n, hn, heq⟩ := hback m hm
    obtain ⟨hsame, -, hstays⟩ := of_succeeded heq
    exact ⟨n, hn, hsame, congrArg (·.health) (hstays (hsame ▸ hne))⟩
  · intro n hn hne
    obtain ⟨m, hm, heq⟩ : ∃ m ∈ t'.nodes, m.bare = (succeeded f.id t.backoff now' n).bare :=
      List.mem_map.mp (hbare ▸ List.mem_map_of_mem hn)
    obtain ⟨hsame, -, hstays⟩ := of_succeeded heq.symm
    exact ⟨m, hm, hsame, congrArg (·.health) (hstays hne)⟩

/-- Before an identity is served that can be tried from an instant on, all those are that could be tried earlier. -/
theorem Served.mem_of_earlier {before after : List κ} {since : Instant}
    (hserved : Served t now (before ++ id :: after)) (h : t.Fair now) (hd : t.Distinct) (hsince : since ≤ now)
    (hid : ∀ n ∈ t.nodes, n.id = id → since ≤ n.health.eligibleAt) :
    ∀ n ∈ t.nodes, n.health.eligibleAt < since → n.id ∈ before := by
  induction before generalizing t now with
  | nil =>
    intro n hn hearlier
    cases hserved with
    | next serves =>
      obtain ⟨first, hfirst, hself, hleast⟩ := (h.requeues hd serves).soonest
      exact absurd hearlier (Nat.not_lt_of_le (Nat.le_trans (hid first hfirst hself) (hleast n hn)))
  | cons served before ih =>
    intro n hn hearlier
    cases hserved with
    | @next _ t' _ now' _ _ serves later rest =>
      obtain ⟨hfair, hsites⟩ := h.serve serves later
      obtain ⟨-, hbehind, hkept, hstay⟩ := h.requeues hd serves
      have hlater : since ≤ now' := Nat.le_trans hsince (Nat.le_of_lt later)
      by_cases hself : n.id = served
      · exact hself ▸ List.mem_cons_self
      · obtain ⟨m, hm, hsame, hhealth⟩ := hstay n hn hself
        refine List.mem_cons_of_mem _ (hsame ▸ ?_)
        refine ih rest hfair (distinct_of_sites hsites hd) hlater ?_ m hm (hhealth ▸ hearlier)
        intro m hm hmid
        by_cases hserved : m.id = served
        · exact (hbehind m hm hserved).symm ▸ hlater
        · obtain ⟨n, hn, hnid, hhealth⟩ := hkept m hm hserved
          exact hhealth ▸ hid n hn (hnid.trans hmid)

/-- No identity is served twice within a round. -/
theorem Served.nodup_of_infix (hserved : Served t now ids) (h : t.Fair now) (hd : t.Distinct) {window : List κ}
    (hwindow : window <:+: ids) (hround : window.length ≤ t.nodes.length) : window.Nodup := by
  induction hserved generalizing window with
  | none t now => exact List.infix_nil.mp hwindow ▸ .nil
  | @next t t' now now' id ids serves later rest ih =>
    obtain ⟨hfair, hsites⟩ := h.serve serves later
    have hd' := distinct_of_sites hsites hd
    rcases List.infix_cons_iff.mp hwindow with hprefix | hinfix
    · rcases List.prefix_cons_iff.mp hprefix with rfl | ⟨others, rfl, hothers⟩
      · exact .nil
      have hle : others.length + 1 ≤ t.nodes.length := hround
      refine List.nodup_cons.mpr ⟨fun hagain => ?_, ?_⟩
      · -- all the others are served in between, for which the round is too short
        obtain ⟨before, after, rfl⟩ := List.mem_iff_append.mp hagain
        obtain ⟨more, rfl⟩ := hothers
        rw [List.append_assoc, List.cons_append] at rest
        obtain ⟨-, hbehind, hkept, -⟩ := h.requeues hd serves
        have hearlier := rest.mem_of_earlier hfair hd' (Nat.le_refl now') fun n hn hid =>
          Nat.le_of_eq (hbehind n hn hid).symm
        have hall : t'.nodes.map (·.id) ⊆ id :: before := by
          intro other hother
          obtain ⟨m, hm, rfl⟩ := List.mem_map.mp hother
          by_cases hself : m.id = id
          · exact hself ▸ List.mem_cons_self
          · obtain ⟨n, hn, -, hhealth⟩ := hkept m hm hself
            refine List.mem_cons_of_mem _ (hearlier m hm ?_)
            exact hhealth ▸ Nat.lt_of_le_of_lt (h.eligible n hn) later
        have hfew := (List.subperm_of_subset hfair.single hall).length_le
        rw [List.length_map, length_of_sites hsites, List.length_cons] at hfew
        simp only [List.length_append, List.length_cons] at hle
        omega
      · refine ih hfair hd' hothers.isInfix ?_
        rw [length_of_sites hsites]
        exact Nat.le_of_succ_le hle
    · exact ih hfair hd' hinfix (length_of_sites hsites ▸ hround)

/-- Another identity's node stands before that of an identity at its endpoint, and takes its marks. -/
def Shadowed (t : Topology κ) (id : κ) : Prop := ∃ e, (e, id) ∈ t.sites ∧ (t.nodeAt? e).map (·.id) ≠ some id

omit [DecidableEq κ] in
theorem nodeAt_sites (t : Topology κ) (e : Endpoint) :
    (t.nodeAt? e).map (·.id) = (t.sites.find? (·.1 == e)).map (·.2) := by
  rw [sites, List.find?_map, Option.map_map]
  rfl

omit [DecidableEq κ] in
theorem Shadowed.of_sites (h : t.Shadowed id) (hsites : t'.sites = t.sites) : t'.Shadowed id := by
  obtain ⟨e, hmem, hother⟩ := h
  refine ⟨e, hsites ▸ hmem, ?_⟩
  rwa [nodeAt_sites, hsites, ← nodeAt_sites]

omit [DecidableEq κ] in
/-- Of two nodes at one endpoint one stands in the other's shadow. -/
theorem Fair.exists_shadowed (h : t.Fair now) (hd : ¬ t.Distinct) : ∃ id, t.Shadowed id := by
  by_contra hnone
  refine hd (List.Nodup.map_on ?_ (List.Nodup.of_map _ h.single))
  have hfirst (n : Node κ) (hn : n ∈ t.nodes) : t.nodeAt? n.endpoint = some n := by
    have hsite : (n.endpoint, n.id) ∈ t.sites := List.mem_map.mpr ⟨n, hn, rfl⟩
    have hown : (t.nodeAt? n.endpoint).map (·.id) = some n.id := by
      by_contra hother
      exact hnone ⟨n.id, n.endpoint, hsite, hother⟩
    obtain ⟨f, hf, hid⟩ := Option.map_eq_some_iff.mp hown
    rw [hf, List.inj_on_of_nodup_map h.single (List.mem_of_find?_eq_some hf) hn hid]
  intro n hn m hm hsame
  exact Option.some.inj ((hfirst n hn).symm.trans (hsame ▸ hfirst m hm))

omit [DecidableEq κ] in
theorem Fair.ne_of_shadowed {f : Node κ} (h : t.Fair now) (hn : n ∈ t.nodes) (hshadowed : t.Shadowed n.id)
    (hf : t.nodeAt? n.endpoint = some f) : n.id ≠ f.id := by
  obtain ⟨e, hsite, hother⟩ := hshadowed
  obtain ⟨m, hm, heq⟩ := List.mem_map.mp hsite
  obtain ⟨rfl, hid⟩ := Prod.mk.inj heq
  rw [List.inj_on_of_nodup_map h.single hm hn hid, hf] at hother
  exact fun hsame => hother (congrArg some hsame.symm)

omit [DecidableEq κ] in
/-- Only one node ranks behind none. -/
theorem Settled.eq_of_foremost (h : t.Settled) (hn : n ∈ t.nodes) (hm : m ∈ t.nodes)
    (hfirst : ∀ k ∈ t.nodes, k.before n = false) (hfirst' : ∀ k ∈ t.nodes, k.before m = false) : n = m := by
  by_contra hne
  have hbefore := h.before_of_not hn hm hne (hfirst m hm)
  rw [hfirst' n hn] at hbefore
  cases hbefore

/-- A node ranks first still when another one that stands first at its endpoint was put behind in its stead. -/
theorem Fair.first_after {f : Node κ} (h : t.Fair now) (hlater : now < now') (hn : n ∈ t.nodes)
    (hfirst : ∀ m ∈ t.nodes, m.before n = false) (hne : n.id ≠ f.id)
    (hbare : t'.nodes.map Node.bare = t.nodes.map fun m => (succeeded f.id t.backoff now' m).bare) :
    ∃ m ∈ t'.nodes, m.id = n.id ∧ ∀ k ∈ t'.nodes, k.before m = false := by
  obtain ⟨m, hm, heq⟩ : ∃ m ∈ t'.nodes, m.bare = (succeeded f.id t.backoff now' n).bare :=
    List.mem_map.mp (hbare ▸ List.mem_map_of_mem hn)
  have hstays : n.bare = m.bare := (of_succeeded heq.symm).2.2 hne
  refine ⟨m, hm, congrArg (·.id) hstays.symm, fun k hk => ?_⟩
  obtain ⟨k', hk', heq'⟩ := List.mem_map.mp (hbare ▸ List.mem_map_of_mem (f := Node.bare) hk)
  obtain ⟨-, hmarked, hkept⟩ := of_succeeded heq'
  by_cases hself : k'.id = f.id
  · have hsooner : m.health.eligibleAt < k.health.eligibleAt := by
      have hsame : m.health.eligibleAt = n.health.eligibleAt := congrArg (·.health.eligibleAt) hstays.symm
      rw [hmarked hself, hsame]
      exact Nat.lt_of_le_of_lt (h.eligible n hn) hlater
    by_contra hbefore
    have hle := Node.eligibleAt_le_of_not_before (Node.not_before_of_before (Bool.of_not_eq_false hbefore))
    exact absurd hle (Nat.not_le_of_lt hsooner)
  · have hbefore : k.bare.before m.bare = k'.bare.before n.bare := by rw [hkept hself, hstays]
    exact hbefore.trans (hfirst k' hk')

/-- An identity in the shadow of another is served again, since it was the other that was put behind. -/
theorem Fair.serves_again {t'' : Topology κ} {now'' : Instant} (h : t.Fair now) (hshadowed : t.Shadowed id)
    (hserves : t.ServesFirst now' id t') (hlater : now < now') (hnext : t'.ServesFirst now'' other t'') : other = id := by
  obtain ⟨hfair, -⟩ := h.serve hserves hlater
  obtain ⟨n, hn, rfl, hfirst, f, hf, hbare⟩ := h.serve_cases hserves
  obtain ⟨n', hn', rfl, hfirst', -⟩ := hfair.serve_cases hnext
  obtain ⟨m, hm, hid, hfirst⟩ := h.first_after hlater hn hfirst (h.ne_of_shadowed hn hshadowed hf) hbare
  rw [← hid, hfair.settled.eq_of_foremost hm hn' hfirst hfirst']

theorem Served.again {before after : List κ} (hserved : Served t now (before ++ id :: other :: after))
    (h : t.Fair now) (hshadowed : t.Shadowed id) : other = id := by
  induction before generalizing t now with
  | nil =>
    cases hserved with
    | next serves later rest =>
      cases rest with
      | next serves' => exact h.serves_again hshadowed serves later serves'
  | cons first before ih =>
    cases hserved with
    | next serves later rest =>
      obtain ⟨hfair, hsites⟩ := h.serve serves later
      exact ih rest hfair (hshadowed.of_sites hsites)

theorem Served.mem (hserved : Served t now ids) (h : t.Fair now) : ids ⊆ t.nodes.map (·.id) := by
  induction hserved with
  | none t now => exact List.nil_subset _
  | next serves later rest ih =>
    obtain ⟨hfair, hsites⟩ := h.serve serves later
    obtain ⟨n, hn, hid, -⟩ := h.serve_cases serves
    refine List.cons_subset.mpr ⟨List.mem_map.mpr ⟨n, hn, hid⟩, ?_⟩
    exact fun other hother => ids_of_sites hsites ▸ ih hfair hother

/-- Of any `count` in a row no two are the same. -/
def Rotates (count : Nat) (ids : List κ) : Prop :=
  ∀ start, start + count ≤ ids.length → ((ids.drop start).take count).Nodup

theorem Served.rotates (hserved : Served t now ids) (h : t.Fair now) (hd : t.Distinct) :
    Rotates t.nodes.length ids := by
  intro start hlength
  refine hserved.nodup_of_infix h hd ?_ (List.length_take_le _ _)
  exact (List.take_prefix _ _).isInfix.trans (List.drop_suffix _ _).isInfix

omit [DecidableEq κ] in
theorem not_rotates_of_repeat {count : Nat} {before after : List κ} (hcount : 2 ≤ count)
    (hlong : count ≤ (before ++ id :: id :: after).length) : ¬ Rotates count (before ++ id :: id :: after) := by
  intro hrotates
  generalize hids : before ++ id :: id :: after = ids at hlong hrotates
  have hlength : before.length + 2 ≤ ids.length := by simp [← hids]
  have hfirst : ids[before.length]? = some id := by simp [← hids]
  have hsecond : ids[before.length + 1]? = some id := by simp [← hids]
  -- the run that holds both, as early as it may begin
  have hstart : min before.length (ids.length - count) + count ≤ ids.length := by omega
  have hnodup := hrotates _ hstart
  rw [List.nodup_iff_getElem?_ne_getElem?] at hnodup
  refine hnodup (before.length - min before.length (ids.length - count))
    (before.length - min before.length (ids.length - count) + 1) (Nat.lt_succ_self _) ?_ ?_
  · simp only [List.length_take, List.length_drop]
    omega
  · rw [List.getElem?_take_of_lt (by omega), List.getElem?_take_of_lt (by omega), List.getElem?_drop,
      List.getElem?_drop, ← Nat.add_assoc, Nat.add_sub_cancel' (Nat.min_le_left _ _), hfirst, hsecond]

omit [DecidableEq κ] in
theorem two_le_of_not_distinct (hd : ¬ t.Distinct) : 2 ≤ t.nodes.length := by
  rcases hnodes : t.nodes with _ | ⟨n, _ | ⟨m, rest⟩⟩
  · exact absurd (by simp [Distinct, endpoints, hnodes]) hd
  · exact absurd (by simp [Distinct, endpoints, hnodes]) hd
  · exact Nat.le_add_left 2 rest.length

theorem Served.not_rotates (hserved : Served t now ids) (h : t.Fair now) (hd : ¬ t.Distinct)
    (hlong : t.nodes.length < ids.length) : ¬ Rotates t.nodes.length ids := by
  intro hrotates
  obtain ⟨id, hshadowed⟩ := h.exists_shadowed hd
  -- a round that rotates serves all, the one in the shadow too, and the next to be served is that one again
  have hround := hrotates 0 (by omega)
  rw [List.drop_zero] at hround
  have hheld : ids.take t.nodes.length ⊆ t.nodes.map (·.id) :=
    List.Subset.trans (List.take_subset _ _) (hserved.mem h)
  have hall : (ids.take t.nodes.length).Perm (t.nodes.map (·.id)) := by
    refine (List.subperm_of_subset hround hheld).perm_of_length_le ?_
    simp only [List.length_map, List.length_take]
    omega
  have hmem : id ∈ ids.take t.nodes.length := by
    obtain ⟨e, hsite, -⟩ := hshadowed
    obtain ⟨n, hn, heq⟩ := List.mem_map.mp hsite
    exact hall.mem_iff.mpr (List.mem_map.mpr ⟨n, hn, congrArg Prod.snd heq⟩)
  obtain ⟨before, after, htake⟩ := List.mem_iff_append.mp hmem
  have hsplit := List.take_append_drop t.nodes.length ids
  rw [htake, List.append_assoc, List.cons_append] at hsplit
  rcases hrest : after ++ ids.drop t.nodes.length with _ | ⟨other, more⟩
  · have hlength := congrArg List.length hrest
    simp only [List.length_append, List.length_drop, List.length_nil] at hlength
    omega
  · rw [hrest] at hsplit
    subst hsplit
    obtain rfl := hserved.again h hshadowed
    exact not_rotates_of_repeat (two_le_of_not_distinct hd) (Nat.le_of_lt hlong) hrotates

theorem Fair.size_eq (h : t.Fair now) : t.size = t.nodes.length := by
  have hperm : t.ids.Perm (t.nodes.map (·.id)) :=
    (List.perm_ext_iff_of_nodup t.nodup_ids h.single).mpr fun id => List.mem_eraseDups
  rw [size, hperm.length_eq, List.length_map]

end Topology

end LedgerNet
