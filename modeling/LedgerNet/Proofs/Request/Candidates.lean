import LedgerNet.Proofs.Request.Choosing
import LedgerNet.Proofs.Request.Deadline

/-!
Whom a request may ask, and when it finds nobody. One that insists on nodes keeps to them; one that does not asks only
nodes that are there, and takes new candidates when a round is over or when all it had are gone. It fails for want of
nodes in the step in which none of its candidates has one and it is offered no other, which may be its first or come
after attempts whose nodes have left since.
-/
namespace LedgerNet

namespace RequestRun

variable {α : Type} {run : RequestRun α} {w : World} {error : ClientError} {id : AccountId}

theorem looking_pinned (hpinned : run.request.isPinned = true) (t : Topology AccountId) : run.looking t = run.pending :=
  if_pos (by rw [hpinned, Bool.true_or])

theorem proceed_candidates (hpinned : run.request.isPinned = true) (plan : RetryPlan) (error : ClientError)
    (w : World) : (run.proceed plan error w).1.pending.candidates = run.pending.candidates := by
  simp [proceed, hpinned, (run.pending.apply_keeps plan error).1]

theorem settle_candidates (hpinned : run.request.isPinned = true) (node : AccountId) (endpoint : Option Endpoint)
    (outcome : Outcome) (value : Option α) (w : World) :
    (run.settle node endpoint outcome value w).1.pending.candidates = run.pending.candidates := by
  have hgoes := run.settle_goes_on node endpoint outcome value w
  cases hgoes with
  | succeeded _ _ result =>
    rcases result with heq | ⟨value, heq⟩
    · rw [heq]
      rfl
    · rw [heq]
      rfl
  | rejected error _ _ eq => rw [eq]; rfl
  | exhausted error _ _ _ eq => rw [eq]; rfl
  | retried error w' _ _ _ eq => rw [eq, proceed_candidates hpinned]
  | benched b _ _ _ _ eq => rw [eq]

theorem Attempted.candidates {t : Topology AccountId} {node : AccountId} {after : RequestRun α × World}
    {ending : Option Ending} (h : Attempted run w t node after ending) (hpinned : run.request.isPinned = true) :
    after.1.pending.candidates = run.pending.candidates := by
  cases h with
  | judged endpoint outcome value w' _ _ _ eq => rw [eq, settle_candidates hpinned]
  | raised error _ eq => rw [eq]; rfl
  | called c _ eq => rw [eq]

/-- A request that insists on its candidates keeps them. -/
theorem step_candidates (hpinned : run.request.isPinned = true) (w : World) :
    (run.step w).1.pending.candidates = run.pending.candidates := by
  cases hp : run.phase with
  | deciding =>
    have hlooking := looking_pinned hpinned w.consensus
    have hturned := turned run w
    rw [step_deciding hp]
    generalize run.turn w = turn at hturned
    cases hturned with
    | expire => rfl
    | starve => rfl
    | wait => simp only [take, hlooking, PendingRequest.focus_candidates]
    | spent => simp only [take, finish, hlooking, PendingRequest.focus_candidates]
    | attempt _ place id p _ _ _ begun =>
      have hattempted := attempt_attempted { run with pending := p } id w
      rw [take, hattempted.candidates hpinned]
      exact (PendingRequest.begin_keeps begun).1.trans (by rw [hlooking, PendingRequest.focus_candidates])
  | pausing ends => simp only [step, hp]
  | calling c =>
    simp only [step, hp]
    exact (receive_attempted run c w).candidates hpinned
  | benching b =>
    simp only [step, hp]
    exact proceed_candidates hpinned _ _ _
  | finished result => simp only [step, hp]

/-- Only candidates that have a node are attempted. -/
theorem attempted_held (h : run.attempted? w = some id) :
    id ∈ (run.looking w.consensus).candidates ∧ w.consensus.contains id = true := by
  obtain ⟨-, hfirst, -⟩ := attempted_turned h
  obtain ⟨hid, hready⟩ := PendingRequest.firstReady_some hfirst
  exact ⟨hid, Topology.contains_of_ready hready⟩

theorem sent_some {s : Sending} (h : run.sent? w = some s) : run.attempted? w = some s.node := by
  obtain ⟨id, hid, hsent⟩ := Option.bind_eq_some_iff.mp h
  rw [hid, sentTo_node hsent]

/-- A request that decides in time has nobody to turn to: none of its candidates has a node, and it insists on them or
is offered no other. -/
structure Deserted (run : RequestRun α) (w : World) : Prop where
  deciding : run.phase = .deciding
  timely : run.elapsed w.now < run.policy.requestTimeout
  absent : ∀ id ∈ run.pending.candidates, w.consensus.contains id = false
  nowhere : run.request.isPinned = true ∨ w.consensus.select = []

/-- A step calls a hook of the request that raises an error: that which encodes it for the node to which a channel is
open, or one of the two that read the answer. -/
inductive Raised (run : RequestRun α) (w : World) (error : ClientError) : Prop
  | encode (node : AccountId) (attempted : run.attempted? w = some node) (connected : endedAtOnce? node w = none)
      (hook : run.request.encode node = .error error)
  | status (c : Calling) (response : String) (calling : run.phase = .calling c) (here : c.ticket.isHere w.now = true)
      (answer : c.ticket.answer = .ok response) (hook : run.request.status response = .error error)
  | value (c : Calling) (response : String) (status : LedgerStatus) (calling : run.phase = .calling c)
      (here : c.ticket.isHere w.now = true) (answer : c.ticket.answer = .ok response)
      (read : run.request.status response = .ok status) (success : (run.request.classify status).isSuccess = true)
      (hook : run.request.value response c.node = .error error)

theorem result_some {result : Except ClientError (Executed α)} :
    run.result? = some result ↔ run.phase = .finished result := by
  unfold result?
  split
  · rename_i other hp
    rw [hp]
    simp
  · rename_i hp
    simpa using fun h => hp result h

/-- No outcome of an attempt is reported as a want of nodes. -/
theorem settle_not_empty (run : RequestRun α) (node : AccountId) (endpoint : Option Endpoint) (outcome : Outcome)
    (value : Option α) (w : World) :
    (run.settle node endpoint outcome value w).1.phase ≠ .finished (.error .emptyTopology) := by
  intro hempty
  have hgoes := run.settle_goes_on node endpoint outcome value w
  cases hgoes with
  | succeeded _ _ result =>
    rcases result with heq | ⟨value, heq⟩
    · rw [heq] at hempty
      cases hempty
    · rw [heq] at hempty
      cases hempty
  | rejected error because _ eq =>
    rw [eq] at hempty
    cases hempty
    cases outcome <;> cases because
  | exhausted error _ _ _ eq =>
    rw [eq] at hempty
    cases hempty
  | retried error w' _ _ _ eq =>
    rw [eq] at hempty
    rcases (run.proceed_proceeds _ error w').phase with hp | ⟨ends, hp⟩
    · rw [hp] at hempty
      cases hempty
    · rw [hp] at hempty
      cases hempty
  | benched b _ _ _ _ eq =>
    rw [eq] at hempty
    cases hempty

theorem attempt_empty {node : AccountId} :
    (run.attempt node w).1.phase = .finished (.error .emptyTopology) ↔
      endedAtOnce? node w = none ∧ run.request.encode node = .error .emptyTopology := by
  unfold attempt endedAtOnce?
  rcases w.consensus.lease node w.net with ⟨_ | lease, consensus, net⟩
  · simp [settle_not_empty]
  · dsimp only
    rcases lease.channel with status | channel
    · simp [settle_not_empty]
    · cases run.request.encode node <;> simp [finish]

theorem receive_empty {c : Calling} (hp : run.phase = .calling c) :
    (run.receive c w).1.phase = .finished (.error .emptyTopology) ↔ run.Raised w .emptyTopology := by
  constructor
  · intro hempty
    unfold receive at hempty
    split at hempty
    · exact absurd hempty (settle_not_empty _ _ _ _ _ _)
    rename_i hhere
    have hhere : c.ticket.isHere w.now = true := by simpa using hhere
    split at hempty
    · exact absurd hempty (settle_not_empty _ _ _ _ _ _)
    rename_i response hanswer
    dsimp only at hempty
    split at hempty
    · rename_i hstatus
      cases hempty
      exact .status c response hp hhere hanswer hstatus
    rename_i status hstatus
    split at hempty
    · rename_i hsuccess
      split at hempty
      · rename_i hvalue
        cases hempty
        exact .value c response status hp hhere hanswer hstatus hsuccess hvalue
      · exact absurd hempty (settle_not_empty _ _ _ _ _ _)
    · exact absurd hempty (settle_not_empty _ _ _ _ _ _)
  · intro hraised
    cases hraised with
    | encode node attempted => rw [attempted_none (by simp [hp])] at attempted; cases attempted
    | status c' response calling here answer hook =>
      cases hp.symm.trans calling
      simp [receive, here, answer, hook, finish]
    | value c' response status calling here answer read success hook =>
      cases hp.symm.trans calling
      simp [receive, here, answer, read, success, hook, finish]

/-- A request is at a loss exactly if it is deserted. -/
theorem deserted_iff (hp : run.phase = .deciding) : run.turn w = .starve ↔ run.Deserted w := by
  have hturned := turned run w
  constructor
  · intro hturn
    rw [hturn] at hturned
    cases hturned with
    | starve timely absent =>
      have hcandidates : ∀ id ∈ run.pending.candidates, w.consensus.contains id = false := by
        intro id hid
        refine Bool.eq_false_iff.mpr fun hcontains => ?_
        have habsent := absent id ((looking_held hid hcontains).symm ▸ hid)
        rw [hcontains] at habsent
        cases habsent
      refine ⟨hp, timely, hcandidates, ?_⟩
      cases hpinned : run.request.isPinned with
      | true => exact .inl rfl
      | false =>
        -- whoever is offered has a node, so that the request would have found it
        refine .inr (List.eq_nil_iff_forall_not_mem.mpr fun id hid => ?_)
        have hany : run.pending.candidates.any w.consensus.contains = false := by simpa using hcandidates
        have habsent := absent id (by rw [looking, hpinned, hany]; exact hid)
        rw [Topology.contains_of_select hid] at habsent
        cases habsent
  · rintro ⟨-, timely, habsent, hnowhere⟩
    have hlooking : ∀ id ∈ (run.looking w.consensus).candidates, w.consensus.contains id = false := by
      unfold looking
      split
      · exact habsent
      · rename_i hheld
        rcases hnowhere with hpinned | hnone
        · simp [hpinned] at hheld
        · simp [PendingRequest.replaceCandidates, hnone]
    have hscan : scan w.consensus (run.looking w.consensus) w.now = none := scan_none hlooking
    rw [turn, if_neg (Nat.not_le_of_lt timely), focus_looking, hscan]
    rfl

theorem Deserted.unattempted (h : run.Deserted w) : run.attempted? w = none := by
  simp only [attempted?, h.deciding, (deserted_iff h.deciding).mpr h]

/-- The hook that a request calls when it decides is the one that encodes it. -/
theorem raised_deciding (hp : run.phase = .deciding) : run.Raised w error ↔
    ∃ node, run.attempted? w = some node ∧ endedAtOnce? node w = none ∧ run.request.encode node = .error error := by
  constructor
  · intro hraised
    cases hraised with
    | encode node attempted connected hook => exact ⟨node, attempted, connected, hook⟩
    | status c response calling => rw [hp] at calling; cases calling
    | value c response status calling => rw [hp] at calling; cases calling
  · rintro ⟨node, attempted, connected, hook⟩
    exact .encode node attempted connected hook

/-- The end of a wait is no want of nodes. -/
theorem not_wanting (hdeciding : run.phase ≠ .deciding) (hcalling : ∀ c, run.phase ≠ .calling c) :
    ¬ (run.Deserted w ∨ run.Raised w error) := by
  rintro (hdeserted | hraised)
  · exact hdeciding hdeserted.deciding
  · cases hraised with
    | encode node attempted => exact hdeciding (attempted_some attempted).1
    | status c response calling => exact hcalling c calling
    | value c response status calling => exact hcalling c calling

/-- A step reports that there is no node exactly if the request is deserted, or if a hook says so. -/
theorem step_empty_iff (hrunning : run.result? = none) : (run.step w).1.result? = some (.error .emptyTopology) ↔
    run.Deserted w ∨ run.Raised w .emptyTopology := by
  rw [result_some]
  cases hp : run.phase with
  | deciding =>
    have hturned := turned run w
    rw [← deserted_iff hp, raised_deciding hp, step_deciding hp]
    cases ht : run.turn w with
    | attempt node p => simp [take, attempt_empty, attempted?, hp, ht]
    | spent p e =>
      rw [ht] at hturned
      cases hturned with
      | spent => simp [take, finish, PendingRequest.exhausted, attempted?, hp, ht]
    | _ => simp [take, finish, attempted?, hp, ht]
  | calling c =>
    have hdeserted : ¬ run.Deserted w := fun h => by simpa [hp] using h.deciding
    simp only [step, hp, receive_empty hp, hdeserted, false_or]
  | finished result => simp [result?, hp] at hrunning
  | pausing ends =>
    have hnot : ¬ (run.Deserted w ∨ run.Raised w .emptyTopology) := not_wanting (by simp [hp]) (by simp [hp])
    simp [step, hp, hnot]
  | benching b =>
    have hnot : ¬ (run.Deserted w ∨ run.Raised w .emptyTopology) := not_wanting (by simp [hp]) (by simp [hp])
    obtain ⟨w', -, -, hproceeds⟩ := step_benching hp w
    rcases hproceeds.phase with hphase | ⟨ends, hphase⟩
    · simp [hphase, hnot]
    · simp [hphase, hnot]

theorem Raised.raises (h : run.Raised w error) : run.request.Raises error := by
  cases h with
  | encode node _ _ hook => exact .inl ⟨node, hook⟩
  | status c response _ _ _ hook => exact .inr (.inl ⟨response, hook⟩)
  | value c response _ _ _ _ _ _ hook => exact .inr (.inr ⟨response, c.node, hook⟩)

/-- The hooks of a submission never say that there is no node, so that it reports that only when it is deserted. -/
theorem submission_empty_iff {run : RequestRun Submitted} {t : Transaction} (hrequest : run.request = t.request)
    (hrunning : run.result? = none) :
    (run.step w).1.result? = some (.error .emptyTopology) ↔ run.Deserted w := by
  rw [step_empty_iff hrunning, or_iff_left]
  intro hraised
  have hraises := hraised.raises
  rw [hrequest] at hraises
  rcases hraises with ⟨node, hencode⟩ | ⟨response, hstatus⟩ | ⟨response, node, hvalue⟩
  · simp only [Transaction.request, Transaction.encode] at hencode
    split at hencode <;> cases hencode
  · simp only [Transaction.request, answerStatus, Wire.NodeAnswer.decode, Wire.decode] at hstatus
    generalize Json.readSymbols _ _ = read at hstatus
    cases read <;> cases hstatus
  · cases hvalue

end RequestRun

namespace Course
open RequestRun

variable {α : Type} {c : Course α} {n k : Nat} {id : AccountId}

theorem pinned_of_ids {r : Request α} {ids : List AccountId} (h : r.nodeIds = some ids) (hids : ids ≠ []) :
    r.isPinned = true := by
  simp [Request.isPinned, h, hids]

/-- Whatever happens, the candidates on which a request insists are its candidates. -/
theorem candidates_pinned (hpinned : c.request.isPinned = true) (n : Nat) :
    (c.run n).pending.candidates = c.request.nodeIds.getD [] := by
  induction n with
  | zero => exact if_pos hpinned
  | succ n ih =>
    rw [run_succ, step_candidates ((c.counted n).request ▸ hpinned)]
    exact ih

theorem attempted_candidate (hpinned : c.request.isPinned = true)
    (h : (c.run n).attempted? (c.before n) = some id) : id ∈ c.request.nodeIds.getD [] := by
  have hcandidate := (attempted_held h).1
  rwa [looking_pinned ((c.counted n).request ▸ hpinned), candidates_pinned hpinned] at hcandidate

theorem start_empty (hfree : c.request.isPinned = false)
    (h : (c.run 0).result? = some (.error .emptyTopology)) : c.world.consensus.select = [] := by
  have hp : (c.run 0).phase = .finished (.error .emptyTopology) := result_some.mp h
  unfold run after start at hp
  simp only [hfree, Bool.false_eq_true, if_false] at hp
  split at hp
  · rename_i hempty
    exact List.isEmpty_iff.mp hempty
  · cases hp

/-- A request that insists on no nodes does not fail for want of nodes while any are offered, unless a hook says so. -/
theorem starved (hfree : c.request.isPinned = false) (hrunning : (c.run n).result? = none)
    (hempty : (c.run (n + 1)).result? = some (.error .emptyTopology)) :
    (c.before n).consensus.select = [] ∨ (c.run n).Raised (c.before n) .emptyTopology := by
  refine ((step_empty_iff hrunning).mp hempty).imp_left fun hdeserted => ?_
  refine hdeserted.nowhere.resolve_left ?_
  simp [(c.counted n).request, hfree]

/-- How a request keeps within its candidates. -/
structure Confined (c : Course α) : Prop where
  reaches : ∀ n, Reaches (c.run n) (c.before n) (c.after (n + 1)) ((c.run n).sent? (c.before n))
  insists : ∀ ids, c.request.nodeIds = some ids → ids ≠ [] → ∀ n, ∀ s ∈ c.sent n, s.node ∈ ids
  held : ∀ n s, (c.run n).sent? (c.before n) = some s → (c.before n).consensus.contains s.node = true
  starts : c.request.isPinned = false → (c.run 0).result? = some (.error .emptyTopology) →
    c.world.consensus.select = []
  starves : c.request.isPinned = false → ∀ n, (c.run n).result? = none →
    (c.run (n + 1)).result? = some (.error .emptyTopology) →
    (c.before n).consensus.select = [] ∨ (c.run n).Raised (c.before n) .emptyTopology

/-- However the topology changes, a request that insists on nodes sends to no others, and every request sends only to
nodes that are there. One that insists on none does not fail for want of nodes while any are offered, unless one of its
own hooks says so. -/
theorem confined (c : Course α) : c.Confined := by
  refine ⟨fun n => step_reaches _ _, ?_, ?_, start_empty, fun hfree n => starved hfree⟩
  · intro ids hids hne n s hs
    obtain ⟨k, -, hk⟩ := List.mem_filterMap.mp hs
    have hcandidate := attempted_candidate (pinned_of_ids hids hne) (sent_some hk)
    rwa [hids] at hcandidate
  · intro n s hs
    exact (attempted_held (sent_some hs)).2

theorem sent_of_unattempted (h : c.attempts n = []) : c.sent n = [] := by
  refine List.filterMap_eq_nil_iff.mpr fun k hk => ?_
  rw [sent?, List.filterMap_eq_nil_iff.mp h k hk, Option.bind_none]

/-- A hook is called for an attempt. -/
theorem attempted_of_raised {error : ClientError} (h : (c.run n).Raised (c.before n) error) :
    (c.run n).result? = none ∧ c.attempts (n + 1) ≠ [] := by
  have hcalled (call : Calling) (hp : (c.run n).phase = .calling call) :
      (c.run n).result? = none ∧ c.attempts (n + 1) ≠ [] := by
    have hturn := c.inTurn n
    rw [InTurn, hp] at hturn
    refine ⟨by simp [result?, hp], ?_⟩
    rw [attempts_succ, hturn.1]
    simp
  cases h with
  | encode node attempted =>
    refine ⟨by simp [result?, (attempted_some attempted).1], ?_⟩
    rw [attempts_succ, attempted]
    simp
  | status call response calling => exact hcalled call calling
  | value call response status calling => exact hcalled call calling

/-- What is there and never leaves stays. -/
theorem still_held (hstay : ∀ n id, (c.before n).consensus.contains id = true →
    (c.before (n + 1)).consensus.contains id = true) (hle : k ≤ n)
    (h : (c.before k).consensus.contains id = true) : (c.before n).consensus.contains id = true := by
  induction hle with
  | refl => exact h
  | step _ ih => exact hstay _ _ ih

theorem unattempted_of_deserted (hstay : ∀ n id, (c.before n).consensus.contains id = true →
    (c.before (n + 1)).consensus.contains id = true) (hoffers : ∀ n, (c.before n).consensus.maxNodes ≠ some 0)
    (h : (c.run n).Deserted (c.before n)) : c.attempts n = [] := by
  refine List.eq_nil_iff_forall_not_mem.mpr fun id hid => ?_
  obtain ⟨k, hk, hattempted⟩ := List.mem_filterMap.mp hid
  have hcontains := still_held hstay (Nat.le_of_lt (List.mem_range.mp hk)) (attempted_held hattempted).2
  rcases h.nowhere with hpinned | hnone
  · have hpinned : c.request.isPinned = true := (c.counted n).request ▸ hpinned
    have habsent := h.absent id (candidates_pinned hpinned n ▸ attempted_candidate hpinned hattempted)
    rw [hcontains] at habsent
    cases habsent
  · rcases Topology.select_eq_nil.mp hnone with habsent | hmax
    · rw [habsent id] at hcontains
      cases hcontains
    · exact hoffers n hmax

/-- A request fails for want of nodes only before its first attempt exactly if it is never deserted after one, and no
hook says that there are none. So it is where nodes do not leave and some are offered. -/
theorem empty_unattempted_iff (c : Course α) :
    ((∀ n, (c.run n).result? = some (.error .emptyTopology) → c.attempts n = [] ∧ c.sent n = []) ↔
      ∀ n, ((c.run n).Deserted (c.before n) → c.attempts n = []) ∧
        ¬ (c.run n).Raised (c.before n) .emptyTopology) ∧
    ((∀ n id, (c.before n).consensus.contains id = true → (c.before (n + 1)).consensus.contains id = true) →
      (∀ n, (c.before n).consensus.maxNodes ≠ some 0) →
      ∀ n, (c.run n).Deserted (c.before n) → c.attempts n = []) := by
  refine ⟨⟨?_, ?_⟩, fun hstay hoffers n => unattempted_of_deserted hstay hoffers⟩
  · intro h n
    constructor
    · intro hdeserted
      have hrunning : (c.run n).result? = none := by simp [result?, hdeserted.deciding]
      have hempty := (h (n + 1) ((step_empty_iff hrunning).mpr (.inl hdeserted))).1
      rw [attempts_succ] at hempty
      exact (List.append_eq_nil_iff.mp hempty).1
    · intro hraised
      obtain ⟨hrunning, hattempted⟩ := attempted_of_raised hraised
      exact hattempted (h (n + 1) ((step_empty_iff hrunning).mpr (.inr hraised))).1
  · intro h n hempty
    suffices hnone : c.attempts n = [] from ⟨hnone, sent_of_unattempted hnone⟩
    induction n with
    | zero => rfl
    | succ n ih =>
      -- either the request had failed before, or this is the step in which it does
      cases hr : (c.run n).result? with
      | some result =>
        have hphase := result_some.mp hr
        rw [run_finished hphase] at hempty
        rw [attempts_succ, ih hempty, attempted_none (by simp [hphase])]
        rfl
      | none =>
        rw [run_succ] at hempty
        rcases (step_empty_iff hr).mp hempty with hdeserted | hraised
        · rw [attempts_succ, (h n).1 hdeserted, hdeserted.unattempted]
          rfl
        · exact absurd hraised (h n).2

/-- A request fails for want of a node after it has removed its only one for not answering. -/
theorem not_always_unattempted : ¬∀ (c : Course Unit) (n : Nat),
    (c.run n).result? = some (.error .emptyTopology) → c.attempts n = [] ∧ c.sent n = [] := by
  intro h
  have hempty : ((removing (some (Span.ofMillis 400))).run 5).result? = some (.error .emptyTopology) := by cbv
  have hsent : ((removing (some (Span.ofMillis 400))).sent 5).length = 1 := by decide +kernel
  rw [(h _ 5 hempty).2] at hsent
  cases hsent

end Course

end LedgerNet
