import Mathlib.Data.List.Rotate
import LedgerNet.Proofs.Request.Resolves
import LedgerNet.Proofs.Request.Sending
import LedgerNet.Proofs.Topology.Ranked
import LedgerNet.Proofs.Transport.Channels

/-!
Which candidate a request tries next. It looks through its candidates from the one whose turn it is, and round; it
tries the first that has a node which can be tried, at such a node. While all are benched it sends nothing, waits for
the one that recovers the soonest, and then tries that one.
-/
namespace LedgerNet

namespace PendingRequest

variable {κ : Type} {p : PendingRequest κ} {id : κ} {place : Nat}

/-- The candidates in the order in which they are looked at. -/
def round (p : PendingRequest κ) : List κ := p.candidates.rotate p.cursor

theorem mem_round : id ∈ p.round ↔ id ∈ p.candidates := List.mem_rotate

theorem focus_at (h : p.candidates[place]? = some id) : p.focus place = { p with cursor := place } :=
  if_pos (List.getElem?_eq_some_iff.mp h).1

theorem focus_current (h : p.candidates[place]? = some id) : (p.focus place).current? = some id := by
  rw [focus_at h]
  exact h

theorem focus_candidates (p : PendingRequest κ) (place : Nat) : (p.focus place).candidates = p.candidates := by
  unfold focus
  split <;> rfl

variable [DecidableEq κ] {policy : RetryPolicy} {t : Topology κ} {now : Instant}

/-- The first candidate of the round that can be tried. -/
def firstReady? (p : PendingRequest κ) (t : Topology κ) (now : Instant) : Option κ := p.round.find? (t.ready now)

/-- The shortest time for which any node of a candidate is still benched. -/
def leastWait? (p : PendingRequest κ) (t : Topology κ) (now : Instant) : Option Span :=
  ((p.candidates.flatMap t.nodesOf).map (·.health.remaining now)).min?

/-- The budgets leave an attempt at a node. -/
def Affords (p : PendingRequest κ) (policy : RetryPolicy) (id : κ) : Prop :=
  p.attempt < policy.maxAttempts ∧
    (id ∈ p.visited ∨ ∀ visits, policy.maxNodeVisits = some visits → p.visited.length < visits)

theorem firstReady_some (h : p.firstReady? t now = some id) : id ∈ p.candidates ∧ t.ready now id = true :=
  ⟨mem_round.mp (List.mem_of_find?_eq_some h), List.find?_some h⟩

theorem firstReady_none : p.firstReady? t now = none ↔ ∀ id ∈ p.candidates, t.ready now id = false := by
  simp [firstReady?, List.find?_eq_none, mem_round]

/-- The candidate on which the cursor stands is the first to be looked at. -/
theorem firstReady_of_current (h : p.current? = some id) (hready : t.ready now id = true) :
    p.firstReady? t now = some id := by
  have hlt : p.cursor < p.candidates.length := (List.getElem?_eq_some_iff.mp h).1
  have hhead : p.round.head? = some id := (List.head?_rotate hlt).trans h
  obtain ⟨rest, hround⟩ := List.head?_eq_some_iff.mp hhead
  rw [firstReady?, hround, List.find?_cons, hready]

theorem begin_affords (h : p.current? = some id) (ha : p.Affords policy id) :
    ∃ p', p.begin? policy.maxAttempts policy.maxNodeVisits = .ok (id, p') := by
  obtain ⟨hattempts, hvisits⟩ := ha
  simp only [begin?, h]
  rw [if_neg]
  · exact ⟨_, rfl⟩
  · rw [not_or]
    refine ⟨Nat.not_le_of_lt hattempts, ?_⟩
    rcases hvisits with hknown | hfew
    · simp [hknown]
    · cases hmax : policy.maxNodeVisits with
      | none => simp
      | some visits => simp [hfew visits hmax]

theorem begin_spent (h : p.current? = some id) (ha : ¬ p.Affords policy id) :
    p.begin? policy.maxAttempts policy.maxNodeVisits = .error (p.exhausted p.lastError) := by
  simp only [begin?, h]
  rw [if_pos]
  refine Classical.or_iff_not_imp_left.mpr fun hmore => ?_
  rw [Affords, not_and] at ha
  obtain ⟨hnew, hfull⟩ := not_or.mp (ha (Nat.lt_of_not_le hmore))
  cases hmax : policy.maxNodeVisits with
  | none => simp [hmax] at hfull
  | some visits =>
    have hle : visits ≤ p.visited.length := by simpa [hmax] using hfull
    simp [hnew, hle]

end PendingRequest

namespace RequestRun

variable {α : Type} {run : RequestRun α} {w : World} {t : Topology AccountId} {now : Instant}
  {p : PendingRequest AccountId} {id : AccountId} {candidates ids : List AccountId} {place : Nat} {span : Span}
  {soonest : Option (Nat × Span)}

/-- What a look through some candidates comes to, given the one that was found before to recover the soonest. -/
inductive Found (t : Topology AccountId) (now : Instant) (candidates : List AccountId) (soonest : Option (Nat × Span))
    (ids : List AccountId) : Option Focus → Prop
  | ready (place : Nat) (id : AccountId) (at' : candidates[place]? = some id)
      (first : ids.find? (t.ready now) = some id) : Found t now candidates soonest ids (some (.ready place))
  | wait (place : Nat) (span : Span) (benched : ids.find? (t.ready now) = none)
      (whose : soonest = some (place, span) ∨
        ∃ id ∈ ids, candidates[place]? = some id ∧ ∃ n ∈ t.nodesOf id, n.health.remaining now = span)
      (known : ∀ best, soonest = some best → span ≤ best.2)
      (least : ∀ id ∈ ids, ∀ n ∈ t.nodesOf id, span ≤ n.health.remaining now) :
      Found t now candidates soonest ids (some (.wait place span))
  | none (unknown : soonest = none) (absent : ∀ id ∈ ids, t.contains id = false) :
      Found t now candidates soonest ids none

theorem nodesOf_of_absent (h : t.contains id = false) : t.nodesOf id = [] := by
  rw [← Topology.bestOf_none, Topology.bestOf?, Node.best_eq_none] at h
  exact h

/-- A candidate without a node is passed over. -/
theorem Found.pass {f : Option Focus} (h : Found t now candidates soonest ids f) (habsent : t.contains id = false) :
    Found t now candidates soonest (id :: ids) f := by
  have hnodes : t.nodesOf id = [] := nodesOf_of_absent habsent
  have hfind : (id :: ids).find? (t.ready now) = ids.find? (t.ready now) := by
    simp only [List.find?_cons, Topology.ready, hnodes, List.any_nil]
  cases h with
  | ready place id' at' first => exact .ready place id' at' (hfind.trans first)
  | wait place span benched whose known least =>
    refine .wait place span (hfind.trans benched) ?_ known (List.forall_mem_cons.mpr ⟨by simp [hnodes], least⟩)
    rcases whose with hknown | ⟨id', hid, hwhose⟩
    · exact .inl hknown
    · exact .inr ⟨id', List.mem_cons_of_mem _ hid, hwhose⟩
  | none unknown absent => exact .none unknown (List.forall_mem_cons.mpr ⟨habsent, absent⟩)

/-- Of a candidate and the one found before, the one that recovers the sooner. -/
def sooner (place : Nat) (span : Span) (soonest : Option (Nat × Span)) : Nat × Span :=
  match soonest with
  | some (place', span') => if span < span' then (place, span) else (place', span')
  | none => (place, span)

theorem sooner_le (place : Nat) (span : Span) (soonest : Option (Nat × Span)) :
    (sooner place span soonest).2 ≤ span ∧ ∀ best, soonest = some best → (sooner place span soonest).2 ≤ best.2 := by
  cases soonest with
  | none => exact ⟨Nat.le_refl _, by rintro best ⟨⟩⟩
  | some other =>
    rcases Nat.lt_or_ge span other.2 with hlt | hge
    · simp only [sooner, if_pos hlt]
      refine ⟨Nat.le_refl _, ?_⟩
      rintro best ⟨rfl⟩
      exact Nat.le_of_lt hlt
    · simp only [sooner, if_neg (Nat.not_lt_of_le hge)]
      refine ⟨hge, ?_⟩
      rintro best ⟨rfl⟩
      exact Nat.le_refl _

theorem sooner_eq (place : Nat) (span : Span) (soonest : Option (Nat × Span)) :
    sooner place span soonest = (place, span) ∨ soonest = some (sooner place span soonest) := by
  cases soonest with
  | none => exact .inl rfl
  | some other =>
    rcases Nat.lt_or_ge span other.2 with hlt | hge
    · exact .inl (by simp only [sooner, if_pos hlt])
    · exact .inr (by simp only [sooner, if_neg (Nat.not_lt_of_le hge)])

/-- A benched candidate is kept in mind if none was found to recover sooner. -/
theorem Found.bench {f : Option Focus} {node : Node AccountId} (hbest : t.bestOf? id = some node)
    (hbenched : node.health.isEligible now = false) (hplace : candidates[place]? = some id)
    (h : Found t now candidates (some (sooner place (node.health.remaining now) soonest)) ids f) :
    Found t now candidates soonest (id :: ids) f := by
  obtain ⟨hown, hother⟩ := sooner_le place (node.health.remaining now) soonest
  have hfind : (id :: ids).find? (t.ready now) = ids.find? (t.ready now) := by
    rw [List.find?_cons, Topology.ready_eq hbest, hbenched]
  cases h with
  | ready place' id' at' first => exact .ready place' id' at' (hfind.trans first)
  | wait place' span benched whose known least =>
    have hspan := known _ rfl
    refine .wait place' span (hfind.trans benched) ?_ ?_ (List.forall_mem_cons.mpr ⟨?_, least⟩)
    · rcases whose with hsome | ⟨id', hid, hwhose⟩
      · have hsooner : sooner place (node.health.remaining now) soonest = (place', span) := Option.some.inj hsome
        rcases sooner_eq place (node.health.remaining now) soonest with heq | heq
        · cases heq.symm.trans hsooner
          exact .inr ⟨id, List.mem_cons_self, hplace, node, Topology.best_mem hbest, rfl⟩
        · exact .inl (hsooner ▸ heq)
      · exact .inr ⟨id', List.mem_cons_of_mem _ hid, hwhose⟩
    · intro best hb
      exact Nat.le_trans hspan (hother best hb)
    · intro n hn
      exact Nat.le_trans hspan (Nat.le_trans hown (Topology.remaining_le hbest hn now))
  | none unknown => cases unknown

theorem found {places : List Nat} (h : places.map (candidates[·]?) = ids.map some) :
    Found t now candidates soonest ids (scanPlaces t candidates now soonest places) := by
  -- on the places that are still to be looked at; what was found at those before is carried along
  induction places generalizing soonest ids with
  | nil =>
    obtain rfl : ids = [] := by simpa using h.symm
    cases soonest with
    | none => exact .none rfl (by simp)
    | some best =>
      refine .wait best.1 best.2 rfl (.inl rfl) ?_ (by simp)
      rintro best ⟨rfl⟩
      exact Nat.le_refl _
  | cons place rest ih =>
    obtain ⟨id, ids, rfl, hid, hrest⟩ := List.map_eq_cons_iff.mp h.symm
    have hplace : candidates[place]? = some id := hid.symm
    simp only [scanPlaces, hplace, Option.bind_some, Topology.bestHealth?]
    cases hbest : t.bestOf? id with
    | none => exact (ih hrest.symm).pass (Topology.bestOf_none.mp hbest)
    | some node =>
      dsimp only [Option.map_some]
      cases hready : node.health.isEligible now with
      | true =>
        refine .ready place id hplace ?_
        rw [List.find?_cons, Topology.ready_eq hbest, hready]
      | false => exact .bench hbest hready hplace (ih hrest.symm)

/-- The places that are looked at hold the candidates of the round. -/
theorem round_places (p : PendingRequest AccountId) :
    ((List.range p.candidates.length).map fun offset => (p.cursor + offset) % p.candidates.length).map
      (p.candidates[·]?) = p.round.map some := by
  refine List.ext_getElem (by simp [PendingRequest.round]) fun n hn _ => ?_
  have hlt : n < p.candidates.length := by simpa using hn
  have hpos : 0 < p.candidates.length := Nat.zero_lt_of_lt hlt
  simp [PendingRequest.round, List.getElem_rotate, Nat.add_comm p.cursor, Nat.mod_lt _ hpos]

/-- What a request finds when it looks for a candidate. -/
inductive Scanned (t : Topology AccountId) (p : PendingRequest AccountId) (now : Instant) : Option Focus → Prop
  | ready (place : Nat) (id : AccountId) (at' : p.candidates[place]? = some id)
      (first : p.firstReady? t now = some id) : Scanned t p now (some (.ready place))
  | wait (place : Nat) (span : Span) (id : AccountId) (at' : p.candidates[place]? = some id)
      (benched : p.firstReady? t now = none) (whose : ∃ n ∈ t.nodesOf id, n.health.remaining now = span)
      (least : p.leastWait? t now = some span) : Scanned t p now (some (.wait place span))
  | none (absent : ∀ id ∈ p.candidates, t.contains id = false) : Scanned t p now none

theorem scanned (t : Topology AccountId) (p : PendingRequest AccountId) (now : Instant) :
    Scanned t p now (scan t p now) := by
  have h : Found t now p.candidates none p.round (scan t p now) := found (round_places p)
  generalize scan t p now = f at h
  cases h with
  | ready place id at' first => exact .ready place id at' first
  | wait place span benched whose known least =>
    obtain ⟨id, hid, at', n, hn, hspan⟩ := whose.resolve_left (by simp)
    refine .wait place span id at' benched ⟨n, hn, hspan⟩ (List.min?_eq_some_iff.mpr ⟨?_, ?_⟩)
    · exact List.mem_map.mpr ⟨n, List.mem_flatMap.mpr ⟨id, PendingRequest.mem_round.mp hid, hn⟩, hspan⟩
    · intro span' hspan'
      obtain ⟨n', hn', rfl⟩ := List.mem_map.mp hspan'
      obtain ⟨id', hid', hn'⟩ := List.mem_flatMap.mp hn'
      exact least id' (PendingRequest.mem_round.mpr hid') n' hn'
  | none _ absent =>
    refine .none fun id hid => ?_
    exact absent id (PendingRequest.mem_round.mpr hid)

/-- The candidates among which a request looks. When none of its own has a node any more, a request that insists on none
takes what the topology offers. -/
def looking (run : RequestRun α) (t : Topology AccountId) : PendingRequest AccountId :=
  if run.request.isPinned || run.pending.candidates.any t.contains then run.pending
  else run.pending.replaceCandidates t.select

theorem looking_held (hid : id ∈ run.pending.candidates) (h : t.contains id = true) : run.looking t = run.pending :=
  if_pos (by rw [List.any_eq_true.mpr ⟨id, hid, h⟩, Bool.or_true])

theorem looking_counts (run : RequestRun α) (t : Topology AccountId) :
    (run.looking t).attempt = run.pending.attempt ∧ (run.looking t).visited = run.pending.visited := by
  unfold looking
  split <;> exact ⟨rfl, rfl⟩

theorem scan_none (h : ∀ id ∈ p.candidates, t.contains id = false) : scan t p now = none := by
  have hscanned := scanned t p now
  generalize scan t p now = f at hscanned
  cases hscanned with
  | ready place id at' first =>
    have habsent := h id (List.mem_of_getElem? at')
    rw [Topology.contains_of_ready (PendingRequest.firstReady_some first).2] at habsent
    cases habsent
  | wait place span id at' benched whose =>
    obtain ⟨n, hn, -⟩ := whose
    rw [nodesOf_of_absent (h id (List.mem_of_getElem? at'))] at hn
    cases hn
  | none => rfl

theorem focus_looking (run : RequestRun α) (t : Topology AccountId) (now : Instant) :
    run.focus t now = (scan t (run.looking t) now).map fun f => (f, run.looking t) := by
  unfold focus
  by_cases hheld : ∃ id ∈ run.pending.candidates, t.contains id = true
  · obtain ⟨id, hid, hcontains⟩ := hheld
    rw [looking_held hid hcontains]
    have hscanned := scanned t run.pending now
    generalize scan t run.pending now = f at hscanned
    cases hscanned with
    | ready => rfl
    | wait => rfl
    | none absent => rw [absent id hid] at hcontains; cases hcontains
  · have habsent : ∀ id ∈ run.pending.candidates, t.contains id = false := by simpa using hheld
    have hany : run.pending.candidates.any t.contains = false := by simpa using habsent
    rw [scan_none habsent, looking, hany, Bool.or_false]
    dsimp only
    cases hpinned : run.request.isPinned with
    | true => simp only [if_true, scan_none habsent, Option.map_none]
    | false =>
      simp only [Bool.false_eq_true, if_false]
      split
      · rename_i hsame
        -- what is offered is what it had, of which nobody has a node
        have hfresh : ∀ id ∈ t.select, t.contains id = false := by
          rcases Bool.or_eq_true_iff.mp hsame with hempty | heq
          · simp [List.isEmpty_iff.mp hempty]
          · rw [← eq_of_beq heq]
            exact habsent
        rw [scan_none hfresh, Option.map_none]
      · rfl

/-- How a request comes to its turn: for want of time, for want of candidates, or by what it has found. -/
inductive Turned (run : RequestRun α) (w : World) : RequestTurn → Prop
  | expire (late : run.policy.requestTimeout ≤ run.elapsed w.now) : Turned run w .expire
  | starve (timely : run.elapsed w.now < run.policy.requestTimeout)
      (absent : ∀ id ∈ (run.looking w.consensus).candidates, w.consensus.contains id = false) : Turned run w .starve
  | wait (timely : run.elapsed w.now < run.policy.requestTimeout) (place : Nat) (span : Span) (id : AccountId)
      (at' : (run.looking w.consensus).candidates[place]? = some id)
      (benched : (run.looking w.consensus).firstReady? w.consensus w.now = none)
      (whose : ∃ n ∈ w.consensus.nodesOf id, n.health.remaining w.now = span)
      (least : (run.looking w.consensus).leastWait? w.consensus w.now = some span) :
      Turned run w (.wait ((run.looking w.consensus).focus place) span)
  | spent (timely : run.elapsed w.now < run.policy.requestTimeout) (place : Nat) (id : AccountId)
      (at' : (run.looking w.consensus).candidates[place]? = some id)
      (first : (run.looking w.consensus).firstReady? w.consensus w.now = some id)
      (bankrupt : ¬ run.pending.Affords run.policy id) :
      Turned run w (.spent ((run.looking w.consensus).focus place)
        (((run.looking w.consensus).focus place).exhausted ((run.looking w.consensus).focus place).lastError))
  | attempt (timely : run.elapsed w.now < run.policy.requestTimeout) (place : Nat) (id : AccountId)
      (p : PendingRequest AccountId) (at' : (run.looking w.consensus).candidates[place]? = some id)
      (first : (run.looking w.consensus).firstReady? w.consensus w.now = some id)
      (solvent : run.pending.Affords run.policy id)
      (begun : ((run.looking w.consensus).focus place).begin? run.policy.maxAttempts run.policy.maxNodeVisits =
        .ok (id, p)) : Turned run w (.attempt id p)

theorem affords_looking (run : RequestRun α) (t : Topology AccountId) (place : Nat) (id : AccountId) :
    ((run.looking t).focus place).Affords run.policy id ↔ run.pending.Affords run.policy id := by
  obtain ⟨hattempt, hvisited⟩ := looking_counts run t
  obtain ⟨hattempt', hvisited', -⟩ := focus_counts (run.looking t) place
  rw [PendingRequest.Affords, hattempt', hvisited', hattempt, hvisited]
  rfl

theorem turned (run : RequestRun α) (w : World) : Turned run w (run.turn w) := by
  unfold turn
  by_cases hlate : run.policy.requestTimeout ≤ run.elapsed w.now
  · rw [if_pos hlate]
    exact .expire hlate
  rw [if_neg hlate, focus_looking]
  have htimely : run.elapsed w.now < run.policy.requestTimeout := Nat.lt_of_not_le hlate
  have hscanned := scanned w.consensus (run.looking w.consensus) w.now
  generalize scan w.consensus (run.looking w.consensus) w.now = f at hscanned
  cases hscanned with
  | none absent => exact .starve htimely absent
  | wait place span id at' benched whose least => exact .wait htimely place span id at' benched whose least
  | ready place id at' first =>
    dsimp only [Option.map_some]
    have hcurrent := PendingRequest.focus_current at'
    by_cases hafford : run.pending.Affords run.policy id
    · obtain ⟨p, hbegun⟩ := PendingRequest.begin_affords hcurrent ((affords_looking run _ place id).mpr hafford)
      rw [hbegun]
      exact .attempt htimely place id p at' first hafford hbegun
    · rw [PendingRequest.begin_spent hcurrent (mt (affords_looking run _ place id).mp hafford)]
      exact .spent htimely place id at' first hafford

/-- An attempt is begun in time, within the budgets, and at the first candidate that can be tried. -/
theorem attempted_turned (h : run.attempted? w = some id) : run.elapsed w.now < run.policy.requestTimeout ∧
    (run.looking w.consensus).firstReady? w.consensus w.now = some id ∧ run.pending.Affords run.policy id := by
  obtain ⟨-, p, hturn⟩ := attempted_some h
  have hturned := turned run w
  rw [hturn] at hturned
  cases hturned with
  | attempt timely place id p _ first solvent => exact ⟨timely, first, solvent⟩

/-- What an attempt at a node comes to at once. The node is called over its channel, unless that cannot be opened or the
request cannot be encoded for the node: then nothing is sent, and the outcome is judged, or the request is over. -/
inductive Tries (run : RequestRun α) (w : World) (n : Node AccountId) (after : RequestRun α × World) : Prop
  | calls (channel : ChannelId) (payload : String) (c : Calling) (net : LocalNet)
      (connected : (n.connect w.net).1 = .ok channel) (encoded : run.request.encode n.id = .ok payload)
      (channels : (n.connect w.net).2.2.SameChannels net) (silent : w.net.Silent net)
      (call : (c.ticket, after.2.net) = net.call channel run.request.method payload)
      (node : c.node = n.id) (endpoint : c.endpoint = n.endpoint) (eq : after.1 = { run with phase := .calling c })
      (topology : after.2.consensus = (w.consensus.lease n.id w.net).2.1)
  | refused (status : Status) (refusal : (n.connect w.net).1 = .error status) (silent : w.net.Silent after.2.net)
      (judged : after = run.settle n.id (some n.endpoint) status.classify none
        { w with consensus := (w.consensus.lease n.id w.net).2.1, net := (n.connect w.net).2.2 })
  | unencoded (channel : ChannelId) (error : ClientError) (connected : (n.connect w.net).1 = .ok channel)
      (hook : run.request.encode n.id = .error error) (silent : w.net.Silent after.2.net)
      (eq : after.1 = run.finish (.error error))

theorem attempt_tries (run : RequestRun α) {n : Node AccountId} (hbest : w.consensus.bestOf? n.id = some n) :
    Tries run w n (run.attempt n.id w) := by
  obtain ⟨t', hlease⟩ := Topology.lease_best hbest w.net
  have hsilent := LocalNet.silent_connect n w.net
  unfold attempt
  rw [hlease]
  dsimp only
  cases hconnected : (n.connect w.net).1 with
  | error status =>
    have hidle : Idle run w _ := (run.settle_idle n.id (some n.endpoint) status.classify none
      { w with consensus := t', net := (n.connect w.net).2.2 }).after _ hsilent
    exact .refused status hconnected hidle.silent (by rw [hlease])
  | ok channel =>
    dsimp only
    cases hencoded : run.request.encode n.id with
    | error error => exact .unencoded channel error hconnected hencoded hsilent rfl
    | ok payload =>
      exact .calls channel payload _ _ hconnected hencoded
        ((LocalNet.same_report _ _).trans (LocalNet.same_report _ _))
        ((hsilent.trans (LocalNet.silent_report _ _)).trans (LocalNet.silent_report _ _)) rfl rfl rfl rfl
        (by rw [hlease]; rfl)

/-- A step counts an attempt at a candidate and makes it, at a node of the candidate that is not benched. -/
structure GoesTo (run : RequestRun α) (w : World) (id : AccountId) (n : Node AccountId) : Prop where
  held : n ∈ w.consensus.nodes
  own : n.id = id
  eligible : n.health.eligibleAt ≤ w.now
  leased : (w.consensus.lease id w.net).1 = some ⟨id, n.endpoint, n.health, (n.connect w.net).1⟩
  counted : (run.step w).1.pending.attempt = run.pending.attempt + 1
  visited : id ∈ (run.step w).1.pending.visited
  tries : ∃ p, Tries { run with pending := p } w n (run.step w)

theorem settle_not_calling (run : RequestRun α) (node : AccountId) (endpoint : Option Endpoint) (outcome : Outcome)
    (value : Option α) (w : World) (c : Calling) : (run.settle node endpoint outcome value w).1.phase ≠ .calling c :=
  (run.settle_idle node endpoint outcome value w).not_calling c

theorem GoesTo.calls {n : Node AccountId} (h : run.GoesTo w id n) {c : Calling}
    (hc : (run.step w).1.phase = .calling c) : c.node = id ∧ c.endpoint = n.endpoint := by
  obtain ⟨p, htries⟩ := h.tries
  cases htries with
  | calls _ _ c' _ _ _ _ _ _ node endpoint eq =>
    rw [eq] at hc
    cases hc
    exact ⟨node.trans h.own, endpoint⟩
  | refused _ _ _ judged =>
    rw [judged] at hc
    exact absurd hc (settle_not_calling _ _ _ _ _ _ _)
  | unencoded _ _ _ _ _ eq =>
    rw [eq] at hc
    cases hc

/-- A step that begins an attempt counts it, and marks its node as visited. -/
theorem attempted_counted (h : run.attempted? w = some id) :
    (run.step w).1.pending.attempt = run.pending.attempt + 1 ∧ id ∈ (run.step w).1.pending.visited := by
  have hpending {p : PendingRequest AccountId} (hturn : run.turn w = .attempt id p)
      (hkept : Kept { run with pending := p } (run.step w).1) :
      (run.step w).1.pending.attempt = run.pending.attempt + 1 ∧ id ∈ (run.step w).1.pending.visited := by
    obtain ⟨-, hattempt, hvisited, -⟩ := turn_attempt hturn
    refine ⟨hkept.attempt.trans hattempt, ?_⟩
    rw [hkept.visited.trans hvisited]
    split
    · rename_i hknown
      exact List.contains_iff_mem.mp hknown
    · exact List.mem_cons_self
  cases stepped run w with
  | idle attempted => cases attempted.symm.trans h
  | failed node p turn attempted _ idle =>
    cases attempted.symm.trans h
    exact hpending turn idle.kept
  | called node p turn attempted _ calls =>
    cases attempted.symm.trans h
    exact hpending turn calls.kept

/-- Whether a candidate can be tried is judged by the very node that is then leased. -/
theorem goes_to (h : run.attempted? w = some id) : ∃ n, run.GoesTo w id n := by
  obtain ⟨hp, p, hturn⟩ := attempted_some h
  have hready : w.consensus.ready w.now id = true :=
    (PendingRequest.firstReady_some (attempted_turned h).2.1).2
  obtain ⟨n, hbest⟩ := Topology.bestOf_of_contains (Topology.contains_of_ready hready)
  obtain ⟨hheld, rfl⟩ := Topology.bestOf_some hbest
  obtain ⟨t', hlease⟩ := Topology.lease_best hbest w.net
  obtain ⟨hattempt, hvisited⟩ := attempted_counted h
  have hstep : run.step w = { run with pending := p }.attempt n.id w := by
    rw [step_deciding hp, hturn]
    rfl
  refine ⟨n, hheld, rfl, ?_, by rw [hlease], hattempt, hvisited, p, ?_⟩
  · rw [Topology.ready_eq hbest] at hready
    exact of_decide_eq_true hready
  · rw [hstep]
    exact attempt_tries _ hbest

/-- A step that begins no attempt sends nothing. -/
theorem idle_of_attempted (h : run.attempted? w = none) : Idle run w (run.step w) := by
  cases stepped run w with
  | idle _ _ idle => exact idle
  | failed node p _ attempted => cases attempted.symm.trans h
  | called node p _ attempted => cases attempted.symm.trans h

/-- What is first in the round and can be tried, is attempted if the budgets allow it, and ends the request if not. -/
theorem turn_first (htime : run.elapsed w.now < run.policy.requestTimeout)
    (hfirst : run.pending.firstReady? w.consensus w.now = some id) :
    (run.pending.Affords run.policy id → ∃ p, run.turn w = .attempt id p) ∧
    (¬ run.pending.Affords run.policy id →
      ∃ p, run.turn w = .spent p (run.pending.exhausted run.pending.lastError)) := by
  obtain ⟨hid, hready⟩ := PendingRequest.firstReady_some hfirst
  have hlooking := looking_held hid (Topology.contains_of_ready hready)
  have hturned := turned run w
  generalize run.turn w = turn at hturned
  rw [← hlooking] at hfirst hid
  cases hturned with
  | expire late => exact absurd late (Nat.not_le_of_lt htime)
  | starve _ absent =>
    have habsent := absent id hid
    rw [Topology.contains_of_ready hready] at habsent
    cases habsent
  | wait _ place span id' _ benched => rw [hfirst] at benched; cases benched
  | spent _ place id' at' first bankrupt =>
    cases hfirst.symm.trans first
    obtain ⟨hattempt, hvisited, hlast⟩ := focus_counts (run.looking w.consensus) place
    refine ⟨fun hafford => absurd hafford bankrupt, fun _ => ⟨_, congrArg _ ?_⟩⟩
    rw [PendingRequest.exhausted, hattempt, hvisited, hlast, hlooking]
    rfl
  | attempt _ place id' p at' first solvent =>
    cases hfirst.symm.trans first
    exact ⟨fun _ => ⟨p, rfl⟩, fun hbankrupt => absurd solvent hbankrupt⟩

theorem attempts_first (hp : run.phase = .deciding) (htime : run.elapsed w.now < run.policy.requestTimeout)
    (hfirst : run.pending.firstReady? w.consensus w.now = some id) (hafford : run.pending.Affords run.policy id) :
    run.attempted? w = some id := by
  obtain ⟨p, hturn⟩ := (turn_first htime hfirst).1 hafford
  simp only [attempted?, hp, hturn]

theorem spends_first (hp : run.phase = .deciding) (htime : run.elapsed w.now < run.policy.requestTimeout)
    (hfirst : run.pending.firstReady? w.consensus w.now = some id) (hbankrupt : ¬ run.pending.Affords run.policy id) :
    Idle run w (run.step w) ∧
      (run.step w).1.result? = some (.error (run.pending.exhausted run.pending.lastError)) := by
  obtain ⟨p, hturn⟩ := (turn_first htime hfirst).2 hbankrupt
  refine ⟨idle_of_attempted (by simp only [attempted?, hp, hturn]), ?_⟩
  rw [step_deciding hp, hturn]
  rfl

/-- A request takes a candidate up: it attempts it, at a node that is not benched, unless a budget is spent. -/
structure Takes (run : RequestRun α) (w : World) (id : AccountId) : Prop where
  attempts : run.pending.Affords run.policy id → ∃ n, run.GoesTo w id n
  spent : ¬ run.pending.Affords run.policy id → Idle run w (run.step w) ∧
    (run.step w).1.result? = some (.error (run.pending.exhausted run.pending.lastError))

/-- What is first in the round and can be tried, is taken up. -/
theorem takes_first (hp : run.phase = .deciding) (htime : run.elapsed w.now < run.policy.requestTimeout)
    (hfirst : run.pending.firstReady? w.consensus w.now = some id) : run.Takes w id :=
  ⟨fun hafford => goes_to (attempts_first hp htime hfirst hafford), spends_first hp htime hfirst⟩

/-- A request sleeps until a candidate recovers, and then takes it up if nothing has changed and time is left. -/
structure SleepsFor (run : RequestRun α) (w : World) (id : AccountId) (span : Span) : Prop where
  candidate : id ∈ run.pending.candidates
  benched : ∃ n ∈ w.consensus.nodesOf id, n.health.remaining w.now = span
  least : run.pending.leastWait? w.consensus w.now = some span
  /-- Nothing is sent, and no attempt is counted. -/
  idle : Idle run w (run.step w)
  unchanged : (run.step w).2.consensus = w.consensus
  pauses : (run.step w).1.phase = .pausing (Instant.wake (w.now + min span (run.left w.now)))
  resumes : ∀ w₁ w₂ : World, w₂.consensus = w.consensus →
    Instant.wake (w.now + min span (run.left w.now)) ≤ w₂.now → run.elapsed w₂.now < run.policy.requestTimeout →
    ((run.step w).1.step w₁).1.phase = .deciding ∧ ((run.step w).1.step w₁).2 = w₁ ∧
      ((run.step w).1.step w₁).1.Takes w₂ id

/-- When the time that was left is over, none is left. -/
theorem time_up {later : Instant} (hstart : run.startedAt ≤ now) (h : now + run.left now ≤ later) :
    run.policy.requestTimeout ≤ run.elapsed later :=
  calc run.policy.requestTimeout ≤ run.elapsed now + run.left now := Nat.sub_le_iff_le_add'.mp (Nat.le_refl _)
    _ = now + run.left now - run.startedAt := (Nat.sub_add_comm hstart).symm
    _ ≤ run.elapsed later := Nat.sub_le_sub_right h _

/-- A wait after which time is left has lasted as long as it was meant to. -/
theorem waited {later : Instant} (hstart : run.startedAt ≤ now)
    (h : Instant.wake (now + min span (run.left now)) ≤ later) (htime : run.elapsed later < run.policy.requestTimeout) :
    now + span ≤ later := by
  have hend : now + min span (run.left now) ≤ later := Nat.le_trans (Instant.le_wake _) h
  rcases Nat.le_total span (run.left now) with hwhole | hcut
  · rwa [Nat.min_eq_left hwhole] at hend
  · rw [Nat.min_eq_right hcut] at hend
    exact absurd (time_up hstart hend) (Nat.not_le_of_lt htime)

theorem sleeps (hp : run.phase = .deciding) (hstart : run.startedAt ≤ w.now)
    (htime : run.elapsed w.now < run.policy.requestTimeout)
    (hheld : ∃ id ∈ run.pending.candidates, w.consensus.contains id = true)
    (hbenched : ∀ id ∈ run.pending.candidates, w.consensus.ready w.now id = false) :
    ∃ id span, run.SleepsFor w id span := by
  obtain ⟨held, hheld, hcontains⟩ := hheld
  have hlooking := looking_held hheld hcontains
  have hturned := turned run w
  have hfirst := PendingRequest.firstReady_none.mpr hbenched
  generalize hturn : run.turn w = turn at hturned
  rw [← hlooking] at hfirst
  cases hturned with
  | expire late => exact absurd late (Nat.not_le_of_lt htime)
  | starve _ absent =>
    have habsent := absent held (hlooking ▸ hheld)
    rw [hcontains] at habsent
    cases habsent
  | spent _ place id at' first => rw [hfirst] at first; cases first
  | attempt _ place id p at' first => rw [hfirst] at first; cases first
  | wait _ place span id at' _ whose least =>
    rw [hlooking] at at' least hturn
    have hattempted : run.attempted? w = none := by simp only [attempted?, hp, hturn]
    refine ⟨id, span, List.mem_of_getElem? at', whose, least, idle_of_attempted hattempted, ?_, ?_, ?_⟩
    · rw [step_deciding hp, hturn]
      rfl
    · rw [step_wait hp hturn]
    · intro w₁ w₂ hsame hlater htime₂
      rw [step_wait hp hturn]
      refine ⟨rfl, rfl, takes_first rfl htime₂ ?_⟩
      -- the cursor has been left on the candidate, so that it comes first whoever else has recovered
      refine PendingRequest.firstReady_of_current (PendingRequest.focus_current at') ?_
      obtain ⟨n, hn, rfl⟩ := whose
      rw [hsame]
      refine List.any_eq_true.mpr ⟨n, hn, decide_eq_true ?_⟩
      exact Nat.le_trans (Nat.sub_le_iff_le_add'.mp (Nat.le_refl _)) (waited hstart hlater htime₂)

/-- How a request chooses among its candidates. Whatever it does, it goes to no node that is benched. -/
structure Chooses (run : RequestRun α) (w : World) : Prop where
  aims : (∃ id n, run.GoesTo w id n) ∨ Idle run w (run.step w)
  takes : (∃ id ∈ run.pending.candidates, w.consensus.ready w.now id = true) →
    ∃ id, run.pending.firstReady? w.consensus w.now = some id ∧ run.Takes w id
  sleeps : (∃ id ∈ run.pending.candidates, w.consensus.contains id = true) →
    (∀ id ∈ run.pending.candidates, w.consensus.ready w.now id = false) → ∃ id span, run.SleepsFor w id span

/-- A request that has time left tries the first candidate of the round that can be tried, at a node that is not
benched. Where all are, it sends nothing until the first of them recovers, and no longer. -/
theorem chooses_soonest (run : RequestRun α) (w : World) (hp : run.phase = .deciding) (hstart : run.startedAt ≤ w.now)
    (htime : run.elapsed w.now < run.policy.requestTimeout) : run.Chooses w := by
  refine ⟨?_, ?_, sleeps hp hstart htime⟩
  · cases hattempted : run.attempted? w with
    | some id => exact .inl ⟨id, goes_to hattempted⟩
    | none => exact .inr (idle_of_attempted hattempted)
  · rintro ⟨id, hid, hready⟩
    cases hfirst : run.pending.firstReady? w.consensus w.now with
    | some first => exact ⟨first, rfl, takes_first hp htime hfirst⟩
    | none =>
      rw [PendingRequest.firstReady_none.mp hfirst id hid] at hready
      cases hready

/-- Two nodes that are both benched, one of them for longer. -/
def benchedPair : World :=
  let held := ((Topology.empty {}).enter 0 (.inProcess "n", ⟨0, 0, 3⟩)).enter 0 (.inProcess "m", ⟨0, 0, 4⟩)
  let failed := ((held.failedAt (.inProcess "n") 0).failedAt (.inProcess "m") 0).failedAt (.inProcess "m") 0
  { (Course.unanswered 2).world with consensus := failed }

/-- The same two nodes when the first has recovered, and is served. -/
def recoveredPair : World :=
  let service := .answering ⟨[], { body := .echo }, none⟩
  { benchedPair with net := { benchedPair.net with now := Span.ofSeconds 16 }.register "in-process:n" "n" service }

/-- A request that asks first for the node that is benched for longer. -/
def insisting : RequestRun Unit :=
  let request := (Course.unanswered 2).request
  start { request with nodeIds := some [⟨0, 0, 4⟩, ⟨0, 0, 3⟩] } (Course.unanswered 2).policy false benchedPair

/-- While both are benched it waits for the one that recovers sooner, though that is not the first that it asks for.
Once that one has recovered the other is passed over: the request is sent to the service of the first. -/
theorem chooses_sooner_of_pair :
    insisting.SleepsFor benchedPair ⟨0, 0, 3⟩ (Span.ofSeconds 16) ∧
      (∃ n c, insisting.GoesTo recoveredPair ⟨0, 0, 3⟩ n ∧ n.endpoint = .inProcess "n" ∧
        (insisting.step recoveredPair).1.phase = .calling c ∧ c.endpoint = .inProcess "n") ∧
      (insisting.step recoveredPair).2.net.arrivals = [⟨"in-process:n", "ping", ""⟩] := by
  constructor
  · have hchooses := chooses_soonest insisting benchedPair rfl (Nat.le_refl 0) (by decide)
    obtain ⟨id, span, hsleeps⟩ := hchooses.sleeps (by decide) (by decide)
    obtain rfl : Span.ofSeconds 16 = span := Option.some.inj (Eq.trans (by cbv) hsleeps.least)
    have hfirst : ∀ id ∈ insisting.pending.candidates, ∀ n ∈ benchedPair.consensus.nodesOf id,
        n.health.remaining 0 = Span.ofSeconds 16 → id = ⟨0, 0, 3⟩ := by decide
    obtain ⟨n, hn, hspan⟩ := hsleeps.benched
    obtain rfl := hfirst id hsleeps.candidate n hn hspan
    exact hsleeps
  · have hchooses := chooses_soonest insisting recoveredPair rfl (Nat.zero_le _) (by decide)
    obtain ⟨id, hid, htakes⟩ := hchooses.takes (by decide)
    obtain rfl : ⟨0, 0, 3⟩ = id := Option.some.inj (Eq.trans (by cbv) hid)
    obtain ⟨n, hgoes⟩ := htakes.attempts ⟨by decide, .inr (by rintro visits ⟨⟩)⟩
    obtain ⟨c, hcalling, hendpoint⟩ : ∃ c, (insisting.step recoveredPair).1.phase = .calling c ∧
        c.endpoint = .inProcess "n" := ⟨_, rfl, rfl⟩
    exact ⟨⟨n, c, hgoes, (hgoes.calls hcalling).2.symm.trans hendpoint, hcalling, hendpoint⟩, by cbv⟩

end RequestRun

end LedgerNet
