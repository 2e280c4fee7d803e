import LedgerNet.Proofs.Request.Choosing
import LedgerNet.Proofs.Request.Deadline
import LedgerNet.Proofs.Topology.Rotating

/-!
Requests that are answered at their first attempt, one after the other, and the topology as what each leaves to the
next. The first candidate of each is the identity that ranks first, and its answer is what puts that one behind.
-/
namespace LedgerNet

namespace RequestRun

variable {α : Type} {run base : RequestRun α} {w : World} {after : RequestRun α × World} {ex : Executed α}

/-- An answer that ends a request well is marked at the endpoint that it came from. -/
theorem receive_answers {c : Calling} (h : (run.receive c w).1.phase = .finished (.ok ex)) :
    ex.node = c.node ∧ ex.attempts = run.pending.attempt ∧
      (run.receive c w).2.consensus = w.consensus.markSuccess c.endpoint w.now := by
  have hreceived := run.receive_attempted c w
  generalize hending : ((run.outcome? c w).map fun outcome => (⟨c.node, some c.endpoint, outcome⟩ : Ending)) = ending
    at hreceived
  cases hreceived with
  | judged endpoint outcome value w' now _ consensus eq =>
    obtain ⟨_, -, hends⟩ := Option.map_eq_some_iff.mp hending
    cases hends
    rw [eq] at h ⊢
    obtain ⟨-, hnode, hattempts, hmarked⟩ := settle_ok h
    exact ⟨hnode, hattempts, by rw [hmarked _ rfl, consensus, now]⟩
  | raised error _ eq => rw [eq] at h; cases h
  | called _ _ eq => rw [eq] at h; cases h

/-- A request that can no longer succeed at its first attempt. -/
def Missed (run : RequestRun α) : Prop :=
  match run.phase with
  | .finished result => ∀ ex, result = .ok ex → ex.attempts ≠ 1
  | .calling _ => 1 < run.pending.attempt
  | _ => 1 ≤ run.pending.attempt

theorem Missed.not_first (h : run.Missed) (hp : run.phase = .finished (.ok ex)) : ex.attempts ≠ 1 := by
  rw [Missed, hp] at h
  exact h ex rfl

theorem missed_of_error {error : ClientError} (h : run.phase = .finished (.error error)) : run.Missed := by
  rw [Missed, h]
  intro ex heq
  cases heq

/-- A step after the first attempt was begun that neither calls nor succeeds at once. -/
theorem Idle.missed (h : Idle base w after) (hbegun : 1 ≤ base.pending.attempt)
    (hok : ∀ ex, after.1.phase = .finished (.ok ex) → ex.attempts ≠ 1) : after.1.Missed := by
  unfold Missed
  split
  · rename_i result hp
    rintro ex rfl
    exact hok ex hp
  · rename_i c hp
    exact absurd hp (h.not_calling c)
  · rw [h.kept.attempt]
    exact hbegun

theorem Missed.step (h : run.Missed) (w : World) : (run.step w).1.Missed := by
  cases hp : run.phase with
  | finished result =>
    have hstep : run.step w = (run, w) := by simp only [RequestRun.step, hp]
    rwa [hstep]
  | calling c =>
    rw [Missed, hp] at h
    have hstep : run.step w = run.receive c w := by simp only [RequestRun.step, hp]
    rw [hstep]
    refine (run.receive_idle c w).missed (Nat.le_of_lt h) fun ex hok => ?_
    rw [(receive_answers hok).2.1]
    exact Nat.ne_of_gt h
  | _ =>
    -- a success comes from a call only
    have hok : ∀ ex, (run.step w).1.phase = .finished (.ok ex) → ex.attempts ≠ 1 := by
      intro ex hok
      rcases step_ok hok with hdone | ⟨c, response, hcalling, -⟩
      · rw [hp] at hdone; cases hdone
      · rw [hp] at hcalling; cases hcalling
    rw [Missed, hp] at h
    cases stepped run w with
    | idle _ _ idle => exact idle.missed h hok
    | failed node p turn _ _ idle =>
      refine idle.missed ?_ hok
      exact (turn_attempt turn).2.1 ▸ Nat.le_add_left 1 _
    | called node p turn _ _ calls =>
      obtain ⟨c, -, hcalling⟩ := calls.phase
      rw [Missed, hcalling]
      dsimp only
      rw [calls.kept.attempt, (turn_attempt turn).2.1]
      exact Nat.lt_succ_of_le h

end RequestRun

namespace Course
open RequestRun

variable {α : Type} {c : Course α} {n m : Nat} {node : AccountId} {now : Instant}

/-- A request that insists on no nodes is answered at its first attempt, in some step, while nobody else touches the
topology. -/
structure Answered (c : Course α) (n : Nat) (node : AccountId) : Prop where
  unpinned : c.request.isPinned = false
  alone : ∀ k w, (c.meddle k w).consensus = w.consensus
  waiting : (c.run n).result? = none
  answered : ∃ value elapsed, (c.run (n + 1)).result? = some (.ok ⟨value, node, 1, elapsed⟩)

theorem missed_from (h : (c.run n).Missed) (hle : n ≤ m) : (c.run m).Missed := by
  induction hle with
  | refl => exact h
  | step _ ih => exact ih.step _

theorem Answered.not_missed (h : c.Answered n node) (hle : m ≤ n + 1) : ¬ (c.run m).Missed := by
  intro hmissed
  obtain ⟨value, elapsed, hanswered⟩ := h.answered
  exact (missed_from hmissed hle).not_first (phase_of_result hanswered) rfl

theorem Answered.consensus_before (h : c.Answered n node) (k : Nat) :
    (c.before k).consensus = (c.after k).2.consensus :=
  h.alone k _

/-- A request that is answered at once had a candidate when it began, that which ranks first. -/
theorem Answered.begins (h : c.Answered n node) : (c.run 0).phase = .deciding ∧
    ∃ id, c.world.consensus.rankedIds.head? = some id ∧ id ∈ c.world.consensus.select ∧
      (c.run 0).pending.current? = some id := by
  have hp : (c.run 0).phase = .deciding :=
    (start_phase c.request c.policy c.refreshes c.world).resolve_right fun hp =>
      h.not_missed (Nat.zero_le _) (missed_of_error hp)
  refine ⟨hp, ?_⟩
  rcases hselect : c.world.consensus.select with _ | ⟨id, rest⟩
  · simp [run, after, start, h.unpinned, hselect] at hp
  · have hprefix : id :: rest <+: c.world.consensus.rankedIds := hselect ▸ List.take_prefix _ _
    obtain ⟨more, hranked⟩ := hprefix
    refine ⟨id, by simp [← hranked], List.mem_cons_self, ?_⟩
    simp [run, after, start, h.unpinned, hselect, PendingRequest.current?]

/-- It begins with an attempt at that candidate. -/
theorem Answered.attempts (h : c.Answered n node) (ht : c.world.consensus.Fair now) (hnow : now ≤ c.world.now) :
    ∃ id, c.world.consensus.rankedIds.head? = some id ∧ id ∈ c.world.consensus.select ∧
      (c.run 0).attempted? (c.before 0) = some id := by
  obtain ⟨hp, id, hhead, hselected, hcurrent⟩ := h.begins
  refine ⟨id, hhead, hselected, ?_⟩
  have hready : (c.before 0).consensus.ready (c.before 0).now id = true := by
    obtain ⟨nd, hnd, hid⟩ := Topology.contains_iff.mp (Topology.contains_of_select hselected)
    rw [h.consensus_before 0]
    refine Topology.ready_iff.mpr ⟨nd, hnd, hid, decide_eq_true ?_⟩
    exact Nat.le_trans (ht.eligible nd hnd) (Nat.le_trans hnow (c.start_le 0))
  have hfirst := PendingRequest.firstReady_of_current hcurrent hready
  by_cases htime : (c.run 0).elapsed (c.before 0).now < (c.run 0).policy.requestTimeout
  · by_cases hafford : (c.run 0).pending.Affords (c.run 0).policy id
    · exact attempts_first hp htime hfirst hafford
    · have hdone := (spends_first hp htime hfirst hafford).2
      exact absurd (missed_of_error (phase_of_result hdone)) (h.not_missed (m := 1) (Nat.le_add_left 1 n))
  · have hturn : (c.run 0).turn (c.before 0) = .expire := by
      rw [turn, if_pos (Nat.le_of_not_lt htime)]
    have hexpired : (c.run 1).phase = .finished (.error (.requestTimeout (c.run 0).pending.attempt
        ((c.run 0).elapsed (c.before 0).now).millis)) := by
      rw [run_succ, step_deciding hp, hturn]
      rfl
    exact absurd (missed_of_error hexpired) (h.not_missed (m := 1) (Nat.le_add_left 1 n))

/-- The node of that candidate is called, and is all that the topology has changed in. -/
theorem Answered.calls (h : c.Answered n node) (ht : c.world.consensus.Fair now) (hnow : now ≤ c.world.now) :
    ∃ id nd call, c.world.consensus.rankedIds.head? = some id ∧ c.world.consensus.bestOf? id = some nd ∧
      (c.run 1).phase = .calling call ∧ (c.run 1).pending.attempt = 1 ∧ call.node = id ∧
      call.endpoint = nd.endpoint ∧
      (c.after 1).2.consensus = (c.world.consensus.lease id (c.before 0).net).2.1 := by
  obtain ⟨id, hhead, hselected, hattempted⟩ := h.attempts ht hnow
  obtain ⟨hp, p, hturn⟩ := attempted_some hattempted
  obtain ⟨nd, hbest⟩ := Topology.bestOf_of_contains (Topology.contains_of_select hselected)
  have hnumber : p.attempt = 1 := (turn_attempt hturn).2.1
  have hlost := h.not_missed (m := 1) (Nat.le_add_left 1 n)
  have hmade := step_attempted hp hturn
  have hleased : (c.run 0).leased (c.before 0) = (c.world.consensus.lease id (c.before 0).net).2.1 := by
    simp only [leased, hattempted, h.consensus_before 0]
    rfl
  generalize (c.run 0).ending? (c.before 0) = ending at hmade
  cases hmade with
  | judged endpoint outcome value w' _ _ _ eq =>
    have hidle := settle_idle { c.run 0 with pending := p } id endpoint outcome value w'
    rw [← eq] at hidle
    refine absurd (hidle.missed (Nat.le_of_eq hnumber.symm) fun ex hok => ?_) hlost
    rcases step_ok hok with hdone | ⟨call, _, hcalling, -⟩
    · rw [hp] at hdone; cases hdone
    · rw [hp] at hcalling; cases hcalling
  | raised error _ eq => exact absurd (missed_of_error (congrArg (·.phase) eq)) hlost
  | called call at' eq _ consensus =>
    have hcalling : (c.run 1).phase = .calling call := congrArg (·.phase) eq
    obtain ⟨nd', hgoes⟩ := goes_to hattempted
    have hlease := hgoes.leased
    obtain ⟨t', hlease'⟩ := Topology.lease_best hbest (c.before 0).net
    rw [h.consensus_before 0] at hlease
    have hsame : nd'.endpoint = nd.endpoint :=
      congrArg (·.endpoint) (Option.some.inj (hlease.symm.trans (congrArg Prod.fst hlease')))
    exact ⟨id, nd, call, hhead, hbest, hcalling, (congrArg (·.pending.attempt) eq).trans hnumber, at',
      (hgoes.calls hcalling).2.trans hsame, consensus.trans hleased⟩

/-- The answer to that call is the answer to the request, and what is marked. -/
theorem Answered.serves (h : c.Answered n node) (ht : c.world.consensus.Fair now) (hnow : now ≤ c.world.now) :
    c.world.consensus.ServesFirst (c.before n).now node (c.after (n + 1)).2.consensus := by
  obtain ⟨id, nd, call, hhead, hbest, hcalling, hnumber, rfl, hendpoint, hleased⟩ := h.calls ht hnow
  obtain ⟨value, elapsed, hanswered⟩ := h.answered
  have hafter : c.after 2 = (c.run 1).receive call (c.before 1) := by
    rw [after_succ]
    simp only [step, hcalling]
  have hrun : c.run 2 = ((c.run 1).receive call (c.before 1)).1 := congrArg Prod.fst hafter
  have hone : 1 ≤ n := by
    rcases Nat.eq_zero_or_pos n with rfl | hpos
    · rw [result?, hcalling] at hanswered
      cases hanswered
    · exact hpos
  by_cases hdone : ∃ ex, (c.run 2).phase = .finished (.ok ex)
  · obtain ⟨ex, hdone⟩ := hdone
    have hresult : (c.run 2).result? = some (.ok ex) := by rw [result?, hdone]
    have hlast : n = 1 := by
      by_contra hne
      have hfinished := finished_from (c := c) (n := 2) (m := n) (by rw [hresult]; rfl) (by omega)
      rw [h.waiting] at hfinished
      cases hfinished
    subst hlast
    obtain ⟨hnode, -, hmarked⟩ := receive_answers (hrun ▸ hdone)
    have hsame : node = call.node := by
      rw [hresult] at hanswered
      cases hanswered
      exact hnode
    rw [hsame]
    refine ⟨hhead, nd, (c.before 0).net, hbest, ?_⟩
    rw [hafter, hmarked, h.consensus_before 1, hleased, hendpoint]
  · refine absurd ?_ (h.not_missed (m := 2) (by omega))
    rw [hrun]
    refine ((c.run 1).receive_idle call (c.before 1)).missed (Nat.le_of_eq hnumber.symm) fun ex hok => ?_
    exact absurd ⟨ex, hrun ▸ hok⟩ hdone

end Course

/-- Requests that are answered at their first attempt, one after the other, each later than the one before. Between
them anything may happen but to the topology. -/
inductive Traffic : Topology AccountId → Instant → List AccountId → Prop where
  | quiet (t : Topology AccountId) (now : Instant) : Traffic t now []
  | next {α : Type} {c : Course α} {n : Nat} {node : AccountId} {now : Instant} {nodes : List AccountId}
      (answered : c.Answered n node) (begins : now ≤ c.world.now) (later : now < (c.before n).now)
      (rest : Traffic (c.after (n + 1)).2.consensus (c.before n).now nodes) :
      Traffic c.world.consensus now (node :: nodes)

namespace Traffic
open LedgerNet.Topology

variable {t : Topology AccountId} {now : Instant} {nodes : List AccountId}

theorem served (h : Traffic t now nodes) (ht : t.Fair now) : Served t now nodes := by
  induction h with
  | quiet t now => exact .none t now
  | next answered begins later _ ih =>
    have hserves := answered.serves ht begins
    exact .next hserves later (ih (ht.serve hserves later).1)

/-- While no two nodes share an endpoint, as many requests in a row as there are identities are answered by as many
different nodes. Where two nodes share one, not all that are so many in a row are, once there are more requests. -/
theorem rotates_iff {o : TopologyOptions} {history : History AccountId} (reached : t = (empty o).after history)
    (single : (t.nodes.map (·.id)).Nodup) (eligible : ∀ n ∈ t.nodes, n.health.isEligible now = true)
    (traffic : Traffic t now nodes) :
    (t.Distinct → Rotates t.size nodes) ∧ (t.size < nodes.length → (Rotates t.size nodes ↔ t.Distinct)) := by
  have hfair : t.Fair now :=
    ⟨reached ▸ settled_after o history, single, fun n hn => of_decide_eq_true (eligible n hn)⟩
  have hserved := traffic.served hfair
  rw [hfair.size_eq]
  refine ⟨hserved.rotates hfair, fun hlong => ⟨fun hrotates => ?_, hserved.rotates hfair⟩⟩
  by_contra hd
  exact hserved.not_rotates hfair hd hlong hrotates

/-- A world with a topology, in which whoever is asked on one host answers in a millisecond. -/
def answering (t : Topology AccountId) : World where
  net := { services := [⟨"h", "h", .answering ⟨[], ⟨.text "", Span.ofMillis 1⟩, none⟩⟩] }
  consensus := t
  mirror := .empty {}

/-- A request to any node, in a world of its own. -/
def visit (w : World) : Course Unit where
  request := (Course.unanswered 1).request
  policy := {}
  refreshes := false
  world := w
  meddle _ w := w

/-- The world that some visits leave. -/
def visited (t : Topology AccountId) : Nat → World
  | 0 => answering t
  | k + 1 => ((visit (visited t k)).after 2).2

theorem of_visit {k : Nat} {node : AccountId} {elapsed : Span}
    (hwaiting : ((visit (visited t k)).run 1).result? = none)
    (hanswered : ((visit (visited t k)).run 2).result? = some (.ok ⟨(), node, 1, elapsed⟩))
    (hlater : (visited t k).now < (visited t (k + 1)).now)
    (rest : Traffic (visited t (k + 1)).consensus (visited t (k + 1)).now nodes) :
    Traffic (visited t k).consensus (visited t k).now (node :: nodes) := by
  have hnow : (visited t (k + 1)).now = ((visit (visited t k)).before 1).now := Course.step_now _ _
  rw [hnow] at hlater rest
  exact .next (c := visit (visited t k)) ⟨rfl, fun _ _ => rfl, hwaiting, (), elapsed, hanswered⟩ (Nat.le_refl _)
    hlater rest

/-- Two nodes on one host. -/
def neighbours : Topology AccountId :=
  (empty {}).after [({}, .replace [(.remote "h" 1 false, ⟨0, 0, 3⟩), (.remote "h" 2 false, ⟨0, 0, 4⟩)])]

theorem rotates_iff_neighbours : Traffic neighbours 0 [⟨0, 0, 3⟩, ⟨0, 0, 4⟩, ⟨0, 0, 3⟩] ∧
    neighbours.size = 2 ∧ Rotates neighbours.size [(⟨0, 0, 3⟩ : AccountId), ⟨0, 0, 4⟩, ⟨0, 0, 3⟩] := by
  have htraffic : Traffic neighbours 0 [⟨0, 0, 3⟩, ⟨0, 0, 4⟩, ⟨0, 0, 3⟩] :=
    of_visit (k := 0) (by cbv) (by cbv) (by decide_cbv) <|
      of_visit (k := 1) (by cbv) (by cbv) (by decide_cbv) <|
        of_visit (k := 2) (by cbv) (by cbv) (by decide_cbv) (.quiet _ _)
  have hsize : neighbours.size = 2 := by cbv
  have hapart : neighbours.Distinct := by
    unfold Distinct
    decide_cbv
  exact ⟨htraffic, hsize, (rotates_iff rfl (by decide_cbv) (List.all_eq_true.mp (by cbv)) htraffic).1 hapart⟩

/-- Of twins that a switch has merged, the second is asked again and again. -/
theorem not_always_rotates : ¬ ∀ (o : TopologyOptions) (history : History AccountId) (now : Instant)
    (nodes : List AccountId), (((empty o).after history).nodes.map (·.id)).Nodup →
    (∀ n ∈ ((empty o).after history).nodes, n.health.isEligible now = true) →
    Traffic ((empty o).after history) now nodes → Rotates ((empty o).after history).size nodes := by
  intro h
  have htraffic : Traffic ((empty { secure := true }).after mergingSwitch) 0 [⟨0, 0, 3⟩, ⟨0, 0, 4⟩, ⟨0, 0, 4⟩] :=
    of_visit (k := 0) (by cbv) (by cbv) (by decide_cbv) <|
      of_visit (k := 1) (by cbv) (by cbv) (by decide_cbv) <|
        of_visit (k := 2) (by cbv) (by cbv) (by decide_cbv) (.quiet _ _)
  have hrotates := h { secure := true } mergingSwitch 0 _ (by decide_cbv) (List.all_eq_true.mp (by cbv)) htraffic
  have hsize : ((empty { secure := true }).after mergingSwitch).size = 2 := by cbv
  rw [hsize] at hrotates
  exact absurd (hrotates 1 (by decide)) (by decide)

end Traffic

end LedgerNet
