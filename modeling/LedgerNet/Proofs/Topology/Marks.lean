import LedgerNet.Proofs.Topology.Certificates

/-!
Whom a mark of success or of failure reaches. A mark is made at the endpoint that was leased, by whoever stands there
by then: it is the node that was attempted, unless the endpoint was given to another identity in between.
-/
namespace LedgerNet

/-- A failure always changes a node's health: it puts off when the node is next eligible. -/
theorem NodeHealth.fail_ne (h : NodeHealth) (p : BackoffPolicy) (now : Instant) : h.fail p now ≠ h := by
  intro he
  have hat : max (now + p.grow h.backoff) (h.eligibleAt + 1) = h.eligibleAt := congrArg (·.eligibleAt) he
  have hle : h.eligibleAt + 1 ≤ max (now + p.grow h.backoff) (h.eligibleAt + 1) := Nat.le_max_right _ _
  rw [hat] at hle
  exact Nat.not_succ_le_self _ hle

namespace Topology

variable {κ : Type} [DecidableEq κ]

/-- The nodes of all other identities are what they were. -/
def Spares (id : κ) (t t' : Topology κ) : Prop := t'.nodes.filter (·.id != id) = t.nodes.filter (·.id != id)

omit [DecidableEq κ] in
/-- Who stands where. -/
def sites (t : Topology κ) : List (Endpoint × κ) := t.nodes.map fun n => (n.endpoint, n.id)

omit [DecidableEq κ] in
theorem endpoints_of_sites {t t' : Topology κ} (h : t'.sites = t.sites) : t'.endpoints = t.endpoints := by
  simpa [sites, endpoints, Function.comp_def] using congrArg (List.map (·.1)) h

omit [DecidableEq κ] in
theorem ids_of_sites {t t' : Topology κ} (h : t'.sites = t.sites) : t'.nodes.map (·.id) = t.nodes.map (·.id) := by
  simpa [sites, Function.comp_def] using congrArg (List.map (·.2)) h

omit [DecidableEq κ] in
/-- Nobody else stands at an endpoint than nodes of an identity. -/
def Solely (t : Topology κ) (endpoint : Endpoint) (id : κ) : Prop := ∀ id', (endpoint, id') ∈ t.sites → id' = id

omit [DecidableEq κ] in
theorem Solely.mono {t t' : Topology κ} {endpoint : Endpoint} {id : κ} (h : t.Solely endpoint id)
    (hs : t'.sites ⊆ t.sites) : t'.Solely endpoint id := fun id' hm => h id' (hs hm)

omit [DecidableEq κ] in
theorem Solely.node {t : Topology κ} {endpoint : Endpoint} {id : κ} (h : t.Solely endpoint id) {n : Node κ}
    (hn : t.nodeAt? endpoint = some n) : n.id = id := by
  have hat : n.endpoint = endpoint := by simpa using List.find?_some hn
  exact h n.id (List.mem_map.mpr ⟨n, List.mem_of_find?_eq_some hn, by rw [hat]⟩)

/-- Other identities are spared where a node is replaced, by nodes of its identity or by none, exactly when it is not
one of theirs or stays what it is. -/
theorem spares_change {t : Topology κ} {before after : List (Node κ)} {n : Node κ} (id : κ) (put : List (Node κ))
    (nodes : t.nodes = before ++ n :: after) (hput : ∀ m ∈ put, m.id = n.id) :
    t.Spares id { t with nodes := before ++ (put ++ after) } ↔ n.id = id ∨ put = [n] := by
  have hsame : t.Spares id { t with nodes := before ++ (put ++ after) } ↔
      put.filter (·.id != id) = [n].filter (·.id != id) := by
    have hn : n :: after = [n] ++ after := rfl
    simp only [Spares, nodes, hn, List.filter_append, List.append_cancel_left_eq, List.append_cancel_right_eq]
  rw [hsame]
  by_cases h : n.id = id
  · have hnone : put.filter (·.id != id) = [] := by
      refine List.filter_eq_nil_iff.mpr ?_
      intro m hm
      simp [hput m hm, h]
    simp [hnone, h]
  · have hall : put.filter (·.id != id) = put := by
      refine List.filter_eq_self.mpr ?_
      intro m hm
      simp [hput m hm, h]
    simp [hall, h]

variable [Identity κ]

/-- A failure is marked at nobody but the nodes of an identity exactly when none but one of them stands first at the
endpoint: it benches or removes whom it meets. -/
theorem spares_fail_iff (t : Topology κ) (id : κ) (endpoint : Endpoint) (net : LocalNet) :
    t.Spares id ((Op.fail endpoint).after net t) ↔ ∀ n, t.nodeAt? endpoint = some n → n.id = id := by
  simp only [Op.after, markFailure]
  cases hn : t.nodeAt? endpoint with
  | none => simp [Spares]
  | some n =>
    obtain ⟨before, after, nodes, hupdate, hremove⟩ := nodeAt_split hn
    dsimp only
    split
    · rw [hremove]
      have hchange := spares_change id [] nodes (by simp)
      simpa using hchange
    · rw [hupdate]
      have hchange := spares_change id [{ n with health := n.health.fail t.backoff net.now }] nodes (by simp)
      have hne : { n with health := n.health.fail t.backoff net.now } ≠ n :=
        fun he => n.health.fail_ne _ _ (congrArg (·.health) he)
      simpa [hne] using hchange

/-- A success resets whom it meets, which shows unless its health is what it is reset to. -/
theorem spares_succeed_iff (t : Topology κ) (id : κ) (endpoint : Endpoint) (net : LocalNet) :
    t.Spares id ((Op.succeed endpoint).after net t) ↔
      ∀ n, t.nodeAt? endpoint = some n → n.id = id ∨ n.health = .fresh t.backoff net.now := by
  simp only [Op.after, markSuccess]
  cases hn : t.nodeAt? endpoint with
  | none => simp [Spares, updateAt_none hn]
  | some n =>
    obtain ⟨before, after, nodes, hupdate, -⟩ := nodeAt_split hn
    rw [hupdate]
    have hchange := spares_change id [{ n with health := n.health.succeed t.backoff net.now }] nodes (by simp)
    have heq : ({ n with health := n.health.succeed t.backoff net.now } = n) ↔ n.health = .fresh t.backoff net.now := by
      constructor
      · intro he
        exact (congrArg (·.health) he).symm
      · intro he
        change { n with health := NodeHealth.fresh t.backoff net.now } = n
        rw [← he]
    simpa [heq] using hchange

/-- An operation puts a node of an identity at an endpoint, or moves one there. -/
def Op.Assigns (endpoint : Endpoint) : {κ : Type} → [DecidableEq κ] → [Identity κ] → Op κ → κ → Topology κ → Prop
  | _, _, _, .replace network, id, t => (endpoint, id) ∈ desired t.secure network
  | _, _, _, .security secure, id, t => t.secure ≠ secure ∧ ∃ e, (e, id) ∈ t.sites ∧ e.withSecurity secure = endpoint
  | _, _, _, _, _, _ => False

omit [Identity κ] in
theorem sites_entered (now : Instant) (pairs : List (Endpoint × κ)) (t : Topology κ) :
    (pairs.foldl (fun t pair => t.enter now pair) t).sites = t.sites ++ pairs := by
  rw [enter_all, sites, List.map_append, newcomers_sites, sites]

omit [DecidableEq κ] [Identity κ] in
theorem Settled.sites_lease {t t' : Topology κ} {net net' : LocalNet} (hs : t.Settled) (hl : Leases t net t' net') :
    t'.sites = t.sites := by
  cases hl with
  | same turn eq channels => rw [eq, sites, sites]
  | opens turn n mem idle eq channels =>
    subst eq
    exact hs.map_replace (fun n => (n.endpoint, n.id)) mem rfl rfl

omit [DecidableEq κ] [Identity κ] in
theorem Fails.sites {t t' : Topology κ} {net net' : LocalNet} {retired : List ChannelId}
    (h : Fails t net retired t' net') : t'.sites ⊆ t.sites := by
  cases h with
  | unknown eq none same => exact eq ▸ List.Subset.refl _
  | benched before after n health nodes few eq none same =>
    have hsame : t'.sites = t.sites := by simp [Topology.sites, eq, nodes]
    exact hsame ▸ List.Subset.refl _
  | removed before after n nodes eq channel same =>
    subst eq
    have hsub : (before ++ after).Sublist t.nodes := nodes ▸ (List.sublist_cons_self n after).append_left before
    exact (hsub.map _).subset

/-- An endpoint stays with its identity unless it is assigned to another one. -/
theorem Solely.after_op {t : Topology κ} {endpoint : Endpoint} {id : κ} (h : t.Solely endpoint id) (hs : t.Settled)
    (op : Op κ) (net : LocalNet) (hop : ∀ id', op.Assigns endpoint id' t → id' = id) :
    (op.after net t).Solely endpoint id := by
  cases op with
  | replace network =>
    intro id' hm
    simp only [Op.after, replace_eq, sites_entered] at hm
    rcases List.mem_append.mp hm with hkept | hnew
    · exact h id' ((List.filter_sublist.map _).subset hkept)
    · exact hop id' (missing_not_held hnew).1
  | security secure =>
    by_cases hsame : t.secure = secure
    · rw [security_same hsame]
      exact h
    · intro id' hm
      refine hop id' ⟨hsame, ?_⟩
      simp only [Op.after, switchSecurity, hsame, if_false, Option.map_some, Option.getD_some, sites, moveAll,
        List.map_map] at hm
      obtain ⟨n, hn, heq⟩ := List.mem_map.mp hm
      cases heq
      exact ⟨n.endpoint, List.mem_map.mpr ⟨n, hn, rfl⟩, rfl⟩
  | verify wanted =>
    refine h.mono ?_
    by_cases hsame : t.verify = wanted
    · simp [Op.after, switchVerify, hsame]
    · simp [Op.after, switchVerify, hsame, sites, moveAll, Node.moved, Function.comp_def]
  | lease id => exact h.mono (hs.sites_lease (hs.leases id net) ▸ List.Subset.refl _)
  | leaseNext => exact h.mono (hs.sites_lease (hs.leases_next net) ▸ List.Subset.refl _)
  | succeed endpoint =>
    have hsame : ((Op.succeed endpoint).after net t).sites = t.sites := map_updateAt _ (by intro n; rfl) _ _
    exact h.mono (hsame ▸ List.Subset.refl _)
  | fail endpoint => exact h.mono (fails t endpoint net).sites
  | clear => exact h.mono (List.nil_subset _)
  | maxNodes count => exact h
  | ledger known => exact h
  | book fetched => exact h.mono (by simp [Op.after, applyBook, sites, Function.comp_def])

/-- An endpoint stays with its identity for as long as nothing assigns it to another one. -/
theorem Solely.after {t : Topology κ} {endpoint : Endpoint} {id : κ} (h : t.Solely endpoint id) (hs : t.Settled)
    (history : History κ)
    (hops : ∀ net op past, (net, op) :: past <:+ history → ∀ id', op.Assigns endpoint id' (t.after past) → id' = id) :
    (t.after history).Solely endpoint id := by
  have hsettled (past : History κ) : (t.after past).Settled :=
    after_induction (P := Settled) (fun _ op net h => h.after_op op net) hs past
  induction history with
  | nil => exact h
  | cons move past ih =>
    obtain ⟨net, op⟩ := move
    have hpast := ih fun net op earlier hsuffix => hops net op earlier (hsuffix.trans (List.suffix_cons _ _))
    exact hpast.after_op (hsettled past) op net (hops net op past (List.suffix_refl _))

omit [DecidableEq κ] [Identity κ] in
/-- Where no two nodes share an endpoint, each endpoint is one identity's alone. -/
theorem Distinct.solely {t : Topology κ} (h : t.Distinct) {endpoint : Endpoint} {id : κ}
    (hs : (endpoint, id) ∈ t.sites) : t.Solely endpoint id := by
  intro id' hs'
  obtain ⟨n, hn, heq⟩ := List.mem_map.mp hs
  obtain ⟨n', hn', heq'⟩ := List.mem_map.mp hs'
  cases heq
  obtain ⟨hat, rfl⟩ := Prod.mk.injEq .. ▸ heq'
  rw [List.inj_on_of_nodup_map h hn' hn hat]

/-- Whoever is leased still stands where it was leased. -/
theorem Settled.leased_site {t : Topology κ} (hs : t.Settled) {net : LocalNet} {op : Op κ} {lease : Lease κ}
    (hl : op.leased? net t = some lease) : (lease.endpoint, lease.id) ∈ (op.after net t).sites := by
  obtain ⟨turn, n, hn, heq⟩ := leased hl
  obtain ⟨rfl, hafter, -⟩ := by simpa only [Prod.ext_iff] using heq
  have hturn : Settled { t with turn } := ⟨hs.placed, hs.ordered, hs.bound⟩
  rw [hafter, hturn.sites_lease (hturn.leases_node hn net)]
  exact List.mem_map.mpr ⟨n, hn, rfl⟩

/-- Wherever a lease is marked, the mark reaches only nodes of its identity exactly when the endpoint is still one of
theirs, or nobody's: a failure always shows, a success unless the node is fresh. It is so if endpoints were distinct
and nothing assigned the endpoint to another identity since it was leased. -/
theorem marks_leased_iff (o : TopologyOptions) {past : History κ} {net : LocalNet} {op : Op κ} {lease : Lease κ}
    (hl : op.leased? net ((empty o).after past) = some lease) (later : History κ) :
    let leased := (empty o).after ((net, op) :: past)
    let t := leased.after later
    (∀ net', t.Spares lease.id ((Op.fail lease.endpoint).after net' t) ↔
      ∀ n, t.nodeAt? lease.endpoint = some n → n.id = lease.id) ∧
    (∀ net', t.Spares lease.id ((Op.succeed lease.endpoint).after net' t) ↔
      ∀ n, t.nodeAt? lease.endpoint = some n → n.id = lease.id ∨ n.health = .fresh t.backoff net'.now) ∧
    (leased.Distinct →
      (∀ net' op' between, (net', op') :: between <:+ later →
        ∀ id', op'.Assigns lease.endpoint id' (leased.after between) → id' = lease.id) →
      ∀ n, t.nodeAt? lease.endpoint = some n → n.id = lease.id) := by
  intro leased t
  refine ⟨fun net' => spares_fail_iff _ _ _ net', fun net' => spares_succeed_iff _ _ _ net', ?_⟩
  intro hd hops n hn
  have hsite := (settled_after o past).leased_site hl
  exact ((hd.solely hsite).after (settled_after o _) later hops).node hn

/-- Two nodes in process. -/
def paired : History AccountId := [({}, .replace [(.inProcess "m", ⟨0, 0, 4⟩), (.inProcess "n", ⟨0, 0, 3⟩)])]

/-- A node is leased; then it is taken away and put back before its attempt fails. -/
def readded : History AccountId :=
  [({}, .replace [(.inProcess "m", ⟨0, 0, 4⟩), (.inProcess "n", ⟨0, 0, 3⟩)]), ({}, .replace [(.inProcess "m", ⟨0, 0, 4⟩)])]

/-- The endpoint of a node is given to another identity. -/
def reassigned : History AccountId := [({}, .replace [(.inProcess "n", ⟨0, 0, 5⟩)])]

theorem leased_paired :
    ∃ lease : Lease AccountId, (Op.lease ⟨0, 0, 3⟩).leased? {} ((empty {}).after paired) = some lease ∧
      lease.id = ⟨0, 0, 3⟩ ∧ lease.endpoint = .inProcess "n" := by
  have hl : ((Op.lease ⟨0, 0, 3⟩).leased? {} ((empty {}).after paired)).map (fun l => (l.id, l.endpoint)) =
    some (⟨0, 0, 3⟩, .inProcess "n") := by cbv
  obtain ⟨lease, hl, heq⟩ := Option.map_eq_some_iff.mp hl
  exact ⟨lease, hl, Prod.mk.inj heq⟩

/-- The failure of a node that was taken away and put back spares the other one. -/
theorem marks_leased_readded :
    let t := ((empty {}).after (({}, .lease ⟨0, 0, 3⟩) :: paired)).after readded
    ∃ lease : Lease AccountId, (Op.lease ⟨0, 0, 3⟩).leased? {} ((empty {}).after paired) = some lease ∧
      ∀ net, t.Spares lease.id ((Op.fail lease.endpoint).after net t) := by
  obtain ⟨lease, hl, hid, hat⟩ := leased_paired
  obtain ⟨hfail, -, hstands⟩ := marks_leased_iff {} hl readded
  refine ⟨lease, hl, fun net => (hfail net).mpr (hstands ?_ ?_)⟩
  · have hends : ((empty {}).after (({}, .lease ⟨0, 0, 3⟩) :: paired)).endpoints = [.inProcess "n", .inProcess "m"] := by
      cbv
    rw [Distinct, hends]
    decide
  · intro net' op' between hsuffix id' hassigns
    rw [hat] at hassigns
    rw [hid]
    simp only [readded, List.suffix_cons_iff, List.suffix_nil, List.cons.injEq, Prod.mk.injEq, reduceCtorEq,
      or_false] at hsuffix
    rcases hsuffix with ⟨⟨-, rfl⟩, -⟩ | ⟨⟨-, rfl⟩, -⟩
    · have hwanted := EndpointMap.mem_of_mem_ofPairs _ _ hassigns
      simpa [Endpoint.withSecurity, Endpoint.toSecure, Endpoint.toInsecure] using hwanted
    · have hwanted := EndpointMap.mem_of_mem_ofPairs _ _ hassigns
      simp [Endpoint.withSecurity, Endpoint.toSecure, Endpoint.toInsecure] at hwanted

/-- A failure is marked at whoever has been given the endpoint since. -/
theorem not_always_marks_leased :
    ¬ ∀ (o : TopologyOptions) (past : History AccountId) (net : LocalNet) (op : Op AccountId) (lease : Lease AccountId)
      (later : History AccountId) (net' : LocalNet), op.leased? net ((empty o).after past) = some lease →
        let t := ((empty o).after ((net, op) :: past)).after later
        t.Spares lease.id ((Op.fail lease.endpoint).after net' t) := by
  intro hall
  obtain ⟨lease, hl, hid, hat⟩ := leased_paired
  have hstands := (spares_fail_iff _ _ _ _).mp (hall {} _ {} _ lease reassigned {} hl)
  rw [hid, hat] at hstands
  have hother : (nodeAt? (((empty {}).after (({}, .lease ⟨0, 0, 3⟩) :: paired)).after reassigned) (.inProcess "n")).map
    (·.id) = some (⟨0, 0, 5⟩ : AccountId) := by cbv
  obtain ⟨n, hn, hid⟩ := Option.map_eq_some_iff.mp hother
  have hid' := hstands n hn
  rw [hid] at hid'
  cases hid'

end Topology

end LedgerNet
