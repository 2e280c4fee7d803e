import Mathlib.Data.List.Rotate
import LedgerNet.Proofs.Topology.Marks

/-!
The round robin over the nodes. It offers the next node that is eligible, from wherever it has stopped before and round;
while all are benched it offers the first of those that recover the soonest. As long as the nodes and which of them are
eligible stay the same, it offers each eligible one in its turn.
-/
namespace LedgerNet.Topology

variable {κ : Type} {t : Topology κ} {net : LocalNet} {now : Instant} {place count : Nat}

/-- Whether the node at a place is eligible. -/
def isEligible (t : Topology κ) (now : Instant) (place : Nat) : Bool := t.nodes[place]?.any (·.health.isEligible now)

/-- The places of the nodes that are eligible. -/
def eligiblePlaces (t : Topology κ) (now : Instant) : List Nat := (List.range t.nodes.length).filter (t.isEligible now)

/-- The places in the order in which they are looked at for an eligible node. -/
def lookedAt (t : Topology κ) : List Nat :=
  (List.range t.nodes.length).map fun offset => (t.turn % max t.nodes.length 1 + offset) % t.nodes.length

theorem lookedAt_eq (t : Topology κ) : t.lookedAt = (List.range t.nodes.length).rotate t.turn := by
  refine List.ext_getElem (by simp [lookedAt]) ?_
  intro place hplace _
  have hlt : place < t.nodes.length := by simpa [lookedAt] using hplace
  have hcount : max t.nodes.length 1 = t.nodes.length := max_eq_left (Nat.one_le_of_lt hlt)
  simp only [lookedAt, List.getElem_map, List.getElem_range, List.getElem_rotate, List.length_range, hcount,
    Nat.mod_add_mod, Nat.add_comm place]

/-- The first place with the smallest value among so many. -/
def soonest? (f : Nat → Nat) (count : Nat) : Option Nat :=
  (List.range count).foldl (fun found place =>
    match found with
    | none => some place
    | some other => some (if f place < f other then place else other)) none

theorem soonest_succ (f : Nat → Nat) (count : Nat) : soonest? f (count + 1) =
    match soonest? f count with
    | none => some count
    | some other => some (if f count < f other then count else other) := by
  rw [soonest?, List.range_succ, List.foldl_append]
  rfl

/-- A place that comes first among those with the smallest value. -/
structure IsSoonest (f : Nat → Nat) (count place : Nat) : Prop where
  inRange : place < count
  least : ∀ other < count, f place ≤ f other
  first : ∀ other < place, f place < f other

theorem soonest_spec (f : Nat → Nat) (count : Nat) :
    (count = 0 ∧ soonest? f count = none) ∨ ∃ place, soonest? f count = some place ∧ IsSoonest f count place := by
  induction count with
  | zero => exact .inl ⟨rfl, rfl⟩
  | succ count ih =>
    right
    rw [soonest_succ]
    rcases ih with ⟨rfl, hnone⟩ | ⟨best, hbest, hsoonest⟩
    · rw [hnone]
      refine ⟨0, rfl, Nat.zero_lt_one, ?_, fun other hother => absurd hother (Nat.not_lt_zero _)⟩
      intro other hother
      rw [Nat.lt_one_iff.mp hother]
    · rw [hbest]
      by_cases hless : f count < f best
      · refine ⟨count, by simp [hless], Nat.lt_succ_self count, ?_, ?_⟩
        · intro other hother
          rcases Nat.lt_succ_iff_lt_or_eq.mp hother with hother | rfl
          · exact Nat.le_trans (Nat.le_of_lt hless) (hsoonest.least other hother)
          · exact Nat.le_refl _
        · exact fun other hother => Nat.lt_of_lt_of_le hless (hsoonest.least other hother)
      · refine ⟨best, by simp [hless], Nat.lt_succ_of_lt hsoonest.inRange, ?_, hsoonest.first⟩
        intro other hother
        rcases Nat.lt_succ_iff_lt_or_eq.mp hother with hother | rfl
        · exact hsoonest.least other hother
        · exact Nat.le_of_not_lt hless

/-- When the node at a place is eligible. -/
def recovery (t : Topology κ) (place : Nat) : Instant := (t.nodes[place]?.map (·.health.eligibleAt)).getD 0

theorem nextPlace_eq (t : Topology κ) (now : Instant) :
    t.nextPlace? now = (t.lookedAt.find? (t.isEligible now)).or (soonest? t.recovery t.nodes.length) := rfl

/-- The place whose turn it is: it comes first in the round among the eligible ones, or there are none and it is the
first to recover. -/
inductive IsNext (t : Topology κ) (now : Instant) (place : Nat) : Prop
  | eligible (before after : List Nat) (round : t.lookedAt = before ++ place :: after)
      (ready : t.isEligible now place = true) (passed : ∀ other ∈ before, t.isEligible now other = false)
  | benched (none : ∀ other ∈ t.lookedAt, t.isEligible now other = false)
      (soonest : IsSoonest t.recovery t.nodes.length place)

theorem mem_lookedAt : place ∈ t.lookedAt ↔ place < t.nodes.length := by
  rw [lookedAt_eq, List.mem_rotate, List.mem_range]

theorem nextPlace_cases (t : Topology κ) (now : Instant) : (t.nodes = [] ∧ t.nextPlace? now = none) ∨
    ∃ place, t.nextPlace? now = some place ∧ place < t.nodes.length ∧ t.IsNext now place := by
  rw [nextPlace_eq]
  cases hfirst : t.lookedAt.find? (t.isEligible now) with
  | some place =>
    obtain ⟨ready, before, after, hround, hpassed⟩ := List.find?_eq_some_iff_append.mp hfirst
    refine .inr ⟨place, rfl, mem_lookedAt.mp (List.mem_of_find?_eq_some hfirst), ?_⟩
    exact .eligible before after hround ready fun other hother => by simpa using hpassed other hother
  | none =>
    have hbenched : ∀ other ∈ t.lookedAt, t.isEligible now other = false := by
      simpa using List.find?_eq_none.mp hfirst
    rcases soonest_spec t.recovery t.nodes.length with ⟨hnone, hnobody⟩ | ⟨place, hplace, hsoonest⟩
    · exact .inl ⟨List.length_eq_zero_iff.mp hnone, by rw [hnobody]; rfl⟩
    · exact .inr ⟨place, by rw [hplace]; rfl, hsoonest.inRange, .benched hbenched hsoonest⟩

/-- The node that is leased is the one whose turn it is, and the round goes on right behind it. -/
theorem leaseNext_eq {n : Node κ} (hplace : t.nextPlace? net.now = some place) (hn : t.nodes[place]? = some n) :
    (t.leaseNext net).1 = some ⟨n.id, n.endpoint, n.health, (n.connect net).1⟩ ∧
      (t.leaseNext net).2.1.turn = (place + 1) % t.nodes.length := by
  simp only [leaseNext, hplace, hn]
  exact ⟨rfl, rfl⟩

theorem isEligible_eq {n : Node κ} (hn : t.nodes[place]? = some n) (now : Instant) :
    t.isEligible now place = n.health.isEligible now := by
  rw [isEligible, hn, Option.any_some]

theorem recovery_eq {n : Node κ} (hn : t.nodes[place]? = some n) : t.recovery place = n.health.eligibleAt := by
  rw [recovery, hn, Option.map_some, Option.getD_some]

/-- A node is offered by the round robin. -/
structure Offers (t : Topology κ) (net : LocalNet) (lease : Lease κ) (place : Nat) (n : Node κ) : Prop where
  next : t.nextPlace? net.now = some place
  stands : t.nodes[place]? = some n
  leased : lease.id = n.id ∧ lease.endpoint = n.endpoint ∧ lease.health = n.health
  onward : (t.leaseNext net).2.1.turn = (place + 1) % t.nodes.length
  eligible : (∃ other ∈ t.nodes, other.health.isEligible net.now = true) → n.health.isEligible net.now = true
  /-- While all are benched it is the first of those that recover the soonest. -/
  benched : (∀ other ∈ t.nodes, other.health.isEligible net.now = false) → ∀ place' other,
    t.nodes[place']? = some other → n.health.eligibleAt ≤ other.health.eligibleAt ∧
      (place' < place → n.health.eligibleAt < other.health.eligibleAt)

/-- What the round robin does in a state, wherever it has stopped before. -/
structure OffersNext (t : Topology κ) (net : LocalNet) : Prop where
  nobody : (t.leaseNext net).1 = none ↔ t.nodes = []
  /-- Nothing is divided by zero, and only places of nodes are looked at. -/
  defined : 0 < max t.nodes.length 1 ∧ (∀ place ∈ t.lookedAt, 0 < t.nodes.length ∧ place < t.nodes.length) ∧
    ∀ place, t.nextPlace? net.now = some place → 0 < t.nodes.length ∧ place < t.nodes.length
  offers : ∀ lease, (t.leaseNext net).1 = some lease → ∃ place n, t.Offers net lease place n

theorem IsNext.eligible_of_any {n other : Node κ} (h : t.IsNext now place) (hn : t.nodes[place]? = some n)
    (hother : other ∈ t.nodes) (hready : other.health.isEligible now = true) : n.health.isEligible now = true := by
  cases h with
  | eligible before after round ready passed => rwa [isEligible_eq hn] at ready
  | benched none soonest =>
    obtain ⟨place', hplace'⟩ := List.mem_iff_getElem?.mp hother
    have hbenched := none place' (mem_lookedAt.mpr (List.getElem?_eq_some_iff.mp hplace').1)
    rw [isEligible_eq hplace', hready] at hbenched
    cases hbenched

theorem IsNext.soonest_of_none {n other : Node κ} {place' : Nat} (h : t.IsNext now place)
    (hn : t.nodes[place]? = some n) (hbenched : ∀ other ∈ t.nodes, other.health.isEligible now = false)
    (hother : t.nodes[place']? = some other) : n.health.eligibleAt ≤ other.health.eligibleAt ∧
      (place' < place → n.health.eligibleAt < other.health.eligibleAt) := by
  cases h with
  | eligible before after round ready passed =>
    rw [isEligible_eq hn, hbenched n (List.mem_of_getElem? hn)] at ready
    cases ready
  | benched none soonest =>
    rw [← recovery_eq hn, ← recovery_eq hother]
    exact ⟨soonest.least place' (List.getElem?_eq_some_iff.mp hother).1, soonest.first place'⟩

theorem nextPlace_none (t : Topology κ) (now : Instant) : t.nextPlace? now = none ↔ t.nodes = [] := by
  rcases t.nextPlace_cases now with ⟨hnil, hnone⟩ | ⟨place, hplace, hlt, -⟩
  · exact ⟨fun _ => hnil, fun _ => hnone⟩
  · refine ⟨fun hnone => ?_, fun hnil => ?_⟩
    · rw [hnone] at hplace
      cases hplace
    · rw [hnil] at hlt
      cases hlt

theorem nextPlace_some (h : t.nextPlace? now = some place) : place < t.nodes.length ∧ t.IsNext now place := by
  rcases t.nextPlace_cases now with ⟨-, hnone⟩ | ⟨other, hother, hlt, hnext⟩
  · rw [hnone] at h
    cases h
  · cases h.symm.trans hother
    exact ⟨hlt, hnext⟩

theorem leaseNext_isSome (t : Topology κ) (net : LocalNet) :
    (t.leaseNext net).1.isSome = (t.nextPlace? net.now).isSome := by
  cases hplace : t.nextPlace? net.now with
  | none => simp only [leaseNext, hplace, Option.isSome_none]
  | some place =>
    have hn := List.getElem?_eq_getElem (nextPlace_some hplace).1
    rw [(leaseNext_eq hplace hn).1, Option.isSome_some, Option.isSome_some]

theorem offers_next (t : Topology κ) (net : LocalNet) : t.OffersNext net := by
  have hsome := t.leaseNext_isSome net
  have hlooked (place : Nat) (hplace : place < t.nodes.length) : 0 < t.nodes.length ∧ place < t.nodes.length :=
    ⟨Nat.zero_lt_of_lt hplace, hplace⟩
  refine ⟨?_, ⟨?_, ?_, ?_⟩, ?_⟩
  · rw [← t.nextPlace_none net.now, ← Option.not_isSome_iff_eq_none, ← Option.not_isSome_iff_eq_none, hsome]
  · exact Nat.lt_of_lt_of_le Nat.zero_lt_one (Nat.le_max_right _ _)
  · exact fun place hplace => hlooked place (mem_lookedAt.mp hplace)
  · exact fun place hplace => hlooked place (nextPlace_some hplace).1
  · intro lease hlease
    rw [hlease, Option.isSome_some, eq_comm, Option.isSome_iff_exists] at hsome
    obtain ⟨place, hplace⟩ := hsome
    obtain ⟨hlt, hnext⟩ := nextPlace_some hplace
    have hn : t.nodes[place]? = some t.nodes[place] := List.getElem?_eq_getElem hlt
    obtain ⟨hleased, hturn⟩ := leaseNext_eq hplace hn
    cases hleased.symm.trans hlease
    refine ⟨place, t.nodes[place], hplace, hn, ⟨rfl, rfl, rfl⟩, hturn, ?_, ?_⟩
    · rintro ⟨other, hother, hready⟩
      exact hnext.eligible_of_any hn hother hready
    · exact fun hbenched place' other hother => hnext.soonest_of_none hn hbenched hother

/-- The places of the eligible nodes in the order in which their turns come. -/
def turns (t : Topology κ) (now : Instant) : List Nat := t.lookedAt.filter (t.isEligible now)

theorem turns_perm (t : Topology κ) (now : Instant) : (t.turns now).Perm (t.eligiblePlaces now) := by
  rw [turns, lookedAt_eq]
  exact (List.rotate_perm _ _).filter _

theorem nextPlace_turns (h : t.turns now ≠ []) : t.nextPlace? now = (t.turns now).head? := by
  rw [nextPlace_eq, turns, List.head?_filter]
  cases hfirst : t.lookedAt.find? (t.isEligible now) with
  | some place => rfl
  | none =>
    rw [List.find?_eq_none] at hfirst
    refine absurd ?_ h
    simpa [turns, List.filter_eq_nil_iff] using hfirst

/-- The round that goes on behind a place of the one before ends with it. -/
theorem rotate_onward {before after : List Nat} {turn : Nat}
    (h : (List.range count).rotate turn = before ++ place :: after) :
    (List.range count).rotate ((place + 1) % count) = after ++ (before ++ [place]) := by
  have hlength : before.length < ((List.range count).rotate turn).length := by simp [h]
  have hplace : ((List.range count).rotate turn)[before.length] = place := by simp [h]
  rw [List.getElem_rotate, List.getElem_range, List.length_range] at hplace
  calc (List.range count).rotate ((place + 1) % count)
      = (List.range count).rotate ((turn + (before.length + 1)) % (List.range count).length) := by
        rw [← hplace, Nat.mod_add_mod, List.length_range]
        congr 2
        omega
    _ = ((List.range count).rotate turn).rotate (before ++ [place]).length := by
        rw [List.rotate_mod, List.rotate_rotate, List.length_append, List.length_singleton]
    _ = after ++ (before ++ [place]) := by
        rw [h, ← List.singleton_append, ← List.append_assoc, List.rotate_append_length_eq]

/-- Calls for the next node, one after the other. Between them anything may happen that leaves the nodes where they
are and the same ones eligible. -/
structure RoundRobin (κ : Type) where
  topology : Nat → Topology κ
  net : Nat → LocalNet
  onward : ∀ n, (topology (n + 1)).turn = ((topology n).leaseNext (net n)).2.1.turn
  unmoved : ∀ n, (topology (n + 1)).sites = (topology n).sites
  steady : ∀ n, (topology (n + 1)).eligiblePlaces (net (n + 1)).now = (topology n).eligiblePlaces (net n).now

namespace RoundRobin

/-- The places of the eligible nodes. -/
def eligible (r : RoundRobin κ) : List Nat := (r.topology 0).eligiblePlaces (r.net 0).now

/-- The place of the node that a call is offered. -/
def offered? (r : RoundRobin κ) (n : Nat) : Option Nat := (r.topology n).nextPlace? (r.net n).now

/-- The places of the eligible nodes in the order of their turns from a call on. -/
def turns (r : RoundRobin κ) (n : Nat) : List Nat := (r.topology n).turns (r.net n).now

theorem eligible_eq (r : RoundRobin κ) (n : Nat) : (r.topology n).eligiblePlaces (r.net n).now = r.eligible := by
  induction n with
  | zero => rfl
  | succ n ih => exact (r.steady n).trans ih

theorem turns_perm (r : RoundRobin κ) (n : Nat) : (r.turns n).Perm r.eligible :=
  r.eligible_eq n ▸ (r.topology n).turns_perm (r.net n).now

theorem count_succ (r : RoundRobin κ) (n : Nat) : (r.topology (n + 1)).nodes.length = (r.topology n).nodes.length := by
  simpa [sites] using congrArg List.length (r.unmoved n)

theorem isEligible_succ (r : RoundRobin κ) (n : Nat) (hplace : place < (r.topology n).nodes.length) :
    (r.topology (n + 1)).isEligible (r.net (n + 1)).now place = (r.topology n).isEligible (r.net n).now place := by
  have hmem : place ∈ (r.topology (n + 1)).eligiblePlaces (r.net (n + 1)).now ↔
      place ∈ (r.topology n).eligiblePlaces (r.net n).now := by rw [r.steady n]
  rw [eligiblePlaces, eligiblePlaces, r.count_succ n, List.mem_filter, List.mem_filter, List.mem_range] at hmem
  exact Bool.eq_iff_iff.mpr (by simpa [hplace] using hmem)

/-- Whoever was offered is the last in turn. -/
theorem turns_succ (r : RoundRobin κ) (n : Nat) : r.turns (n + 1) = (r.turns n).rotate 1 := by
  cases hturns : r.turns n with
  | nil =>
    have hnone : r.eligible = [] := (hturns ▸ r.turns_perm n).nil_eq.symm
    rw [List.rotate_nil]
    exact (hnone ▸ r.turns_perm (n + 1)).eq_nil
  | cons place rest =>
    have hoffered : (r.topology n).nextPlace? (r.net n).now = some place := by
      have hsome : (r.topology n).turns (r.net n).now = place :: rest := hturns
      rw [nextPlace_turns (by rw [hsome]; exact List.cons_ne_nil _ _), hsome, List.head?_cons]
    obtain ⟨before, after, hround, hpassed, hready, hrest⟩ := List.filter_eq_cons_iff.mp hturns
    have hlt : place < (r.topology n).nodes.length := by
      rw [← mem_lookedAt, hround]
      exact List.mem_append_right _ List.mem_cons_self
    have hnext : (r.topology (n + 1)).lookedAt = after ++ (before ++ [place]) := by
      rw [lookedAt_eq] at hround ⊢
      rw [r.onward n, (leaseNext_eq hoffered (List.getElem?_eq_getElem hlt)).2, r.count_succ n]
      exact rotate_onward hround
    have hsame : r.turns (n + 1) = (after ++ (before ++ [place])).filter ((r.topology n).isEligible (r.net n).now) := by
      rw [turns, Topology.turns, hnext]
      refine List.filter_congr fun other hother => r.isEligible_succ n ?_
      rw [← hnext, mem_lookedAt, r.count_succ n] at hother
      exact hother
    have hbefore : before.filter ((r.topology n).isEligible (r.net n).now) = [] := by
      simpa [List.filter_eq_nil_iff] using hpassed
    rw [hsame, List.filter_append, List.filter_append, hbefore, hrest, List.rotate_cons_succ, List.rotate_zero]
    simp [hready]

theorem turns_add (r : RoundRobin κ) (n count : Nat) : r.turns (n + count) = (r.turns n).rotate count := by
  induction count with
  | zero => rw [List.rotate_zero, Nat.add_zero]
  | succ count ih => rw [← Nat.add_assoc, turns_succ, ih, List.rotate_rotate]

/-- The next calls are offered those whose turns come next. -/
theorem offered_add (r : RoundRobin κ) (n : Nat) {count : Nat} (h : count < (r.turns n).length) :
    r.offered? (n + count) = (r.turns n)[count]? := by
  have hturns := r.turns_add n count
  have hsome : r.turns (n + count) ≠ [] := by
    rw [hturns]
    exact fun hnil => Nat.not_lt_zero _ (List.rotate_eq_nil_iff.mp hnil ▸ h)
  rw [offered?, nextPlace_turns hsome]
  exact (congrArg List.head? hturns).trans (List.head?_rotate h)

end RoundRobin

/-- In every state the round robin offers a node if there is one, and an eligible one if there is one. While the nodes
and the eligible ones among them stay the same, any so many calls in a row offer each of these once. -/
theorem offers_in_turn : (∀ (t : Topology κ) (net : LocalNet), t.OffersNext net) ∧ ∀ (r : RoundRobin κ) (n : Nat),
    ((List.range r.eligible.length).map fun k => r.offered? (n + k)).Perm (r.eligible.map some) := by
  refine ⟨offers_next, fun r n => ?_⟩
  have hturns : (List.range r.eligible.length).map (fun k => r.offered? (n + k)) = (r.turns n).map some := by
    rw [← (r.turns_perm n).length_eq]
    refine List.ext_getElem (by simp) ?_
    intro k hk _
    have hlt : k < (r.turns n).length := by simpa using hk
    simp [r.offered_add n hlt, List.getElem?_eq_getElem hlt]
  rw [hturns]
  exact (r.turns_perm n).map some

/-- Three mirrors, of which the second is benched. -/
def secondBenched : Topology String :=
  let node (place : Nat) (eligibleAt : Instant) : Node String :=
    { id := s!"m{place}", endpoint := .inProcess s!"m{place}", verify := true, health := ⟨eligibleAt, 8, 0⟩
      channel := some place, seq := place }
  { Topology.empty {} with nodes := [node 0 3, node 1 9, node 2 5] }

/-- Where the calls stop. The first finds a turn that was left over from more mirrors. -/
def stops : Nat → Nat
  | 0 => 4
  | n + 1 => if stops n = 0 then 1 else 0

theorem stops_mem (n : Nat) : stops n ∈ [4, 0, 1] := by
  cases n with
  | zero => decide
  | succ n =>
    rw [stops]
    split <;> decide

theorem secondBenched_onward : ∀ turn ∈ [4, 0, 1],
    (({ secondBenched with turn } : Topology String).leaseNext { now := 5 }).2.1.turn = if turn = 0 then 1 else 0 := by
  decide

/-- Calls while the second mirror is benched. -/
def overOneBenched : RoundRobin String where
  topology n := { secondBenched with turn := stops n }
  net _ := { now := 5 }
  onward n := (secondBenched_onward (stops n) (stops_mem n)).symm
  unmoved _ := rfl
  steady _ := rfl

theorem offers_in_turn_oneBenched : overOneBenched.eligible = [0, 2] ∧
    [overOneBenched.offered? 0, overOneBenched.offered? 1].Perm [some 0, some 2] ∧
    [overOneBenched.offered? 7, overOneBenched.offered? 8].Perm [some 0, some 2] := by
  have heligible : overOneBenched.eligible = [0, 2] := by decide
  have hfair := offers_in_turn.2 overOneBenched
  rw [heligible] at hfair
  exact ⟨heligible, hfair 0, hfair 7⟩

end LedgerNet.Topology
