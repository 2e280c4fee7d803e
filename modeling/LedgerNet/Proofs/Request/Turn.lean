import LedgerNet.Request.Run
import LedgerNet.Proofs.Request.Pending
import LedgerNet.Proofs.Time.Wake
import LedgerNet.Proofs.Transport.Silence

/-!
What one step of a request can do. A request that decides takes one of five turns; every other step ends a wait or
an attempt. What all of them keep, and which of them reach a service, is said here once.
-/
namespace LedgerNet

open Text

/-- What a request does once it has looked at the clock and at its candidates. -/
inductive RequestTurn where
  /-- Its time is up. -/
  | expire
  /-- No candidate has a node. -/
  | starve
  /-- All candidates with a node are benched. -/
  | wait (p : PendingRequest AccountId) (span : Span)
  /-- A budget is spent. -/
  | spent (p : PendingRequest AccountId) (error : ClientError)
  | attempt (node : AccountId) (p : PendingRequest AccountId)

/-- How much of an attempt is still to come in a phase. -/
def RequestPhase.rank {α : Type} : RequestPhase α → Nat
  | .deciding => 0
  | .pausing _ => 1
  | .benching _ => 2
  | .calling _ => 3
  | .finished _ => 0

namespace RequestRun

variable {α : Type}

/-- The turn that a request takes when it decides. -/
def turn (run : RequestRun α) (w : World) : RequestTurn :=
  if run.policy.requestTimeout ≤ run.elapsed w.now then .expire
  else
    match run.focus w.consensus w.now with
    | none => .starve
    | some (.wait place span, p) => .wait (p.focus place) span
    | some (.ready place, p) =>
      match (p.focus place).begin? run.policy.maxAttempts run.policy.maxNodeVisits with
      | .error e => .spent (p.focus place) e
      | .ok (node, p) => .attempt node p

/-- Carries a turn out. -/
def take (run : RequestRun α) (w : World) : RequestTurn → RequestRun α × World
  | .expire =>
    (run.finish (.error (.requestTimeout run.pending.attempt (run.elapsed w.now).millis)),
      w.report (.requestTimedOut run.pending.attempt (run.elapsed w.now).millis))
  | .starve => (run.finish (.error .emptyTopology), w)
  | .wait p span =>
    ({ run with pending := p, phase := .pausing (Instant.wake (w.now + min span (run.left w.now))) },
      w.report (.waitingForNode span.millis))
  | .spent p e => ({ run with pending := p }.finish (.error e), w)
  | .attempt node p => { run with pending := p }.attempt node w

theorem decide_eq (run : RequestRun α) (w : World) : run.decide w = run.take w (run.turn w) := by
  unfold decide turn
  dsimp only
  by_cases ht : run.policy.requestTimeout ≤ run.elapsed w.now
  · rw [if_pos ht, if_pos ht]
    rfl
  · rw [if_neg ht, if_neg ht]
    obtain _ | ⟨place | ⟨place, span⟩, p⟩ := run.focus w.consensus w.now
    · rfl
    · dsimp only
      obtain e | ⟨node, p⟩ := (p.focus place).begin? run.policy.maxAttempts run.policy.maxNodeVisits
      · rfl
      · rfl
    · rfl

/-- A run has the same request, budgets and start as another, and has begun the same attempts. -/
structure Kept (run run' : RequestRun α) : Prop where
  request : run'.request = run.request
  policy : run'.policy = run.policy
  refreshes : run'.refreshes = run.refreshes
  startedAt : run'.startedAt = run.startedAt
  attempt : run'.pending.attempt = run.pending.attempt
  visited : run'.pending.visited = run.pending.visited

theorem Kept.refl (run : RequestRun α) : Kept run run := ⟨rfl, rfl, rfl, rfl, rfl, rfl⟩

/-- A step that reaches no service and leaves no call under way. -/
structure Idle (run : RequestRun α) (w : World) (after : RequestRun α × World) : Prop where
  kept : Kept run after.1
  rank : after.1.phase.rank ≤ 2
  silent : w.net.Silent after.2.net

theorem proceed_idle (run : RequestRun α) (plan : RetryPlan) (error : ClientError) (w : World) :
    Idle run w (run.proceed plan error w) := by
  obtain ⟨-, ha, hv, -⟩ := run.pending.apply_keeps plan error
  have hs : w.net.Silent (if plan.refresh && run.refreshes then w.trigger.2 else w).net := by
    split
    · unfold World.trigger
      split <;> exact .refl _
    · exact .refl _
  unfold proceed
  dsimp only
  generalize (if plan.refresh && run.refreshes then w.trigger.2 else w) = w' at hs
  refine ⟨⟨rfl, rfl, rfl, rfl, ?_, ?_⟩, ?_, hs⟩ <;> dsimp only
  · split
    · split <;> exact ha
    · exact ha
  · split
    · split <;> exact hv
    · exact hv
  · split
    · exact Nat.zero_le 2
    · exact Nat.le_succ 1

theorem Idle.finish (run : RequestRun α) (w : World) (result : Except ClientError (Executed α)) :
    Idle run w (run.finish result, w) :=
  ⟨⟨rfl, rfl, rfl, rfl, rfl, rfl⟩, Nat.zero_le 2, .refl _⟩

/-- A step may report before it goes on, and change a topology in silence. -/
theorem Idle.after {run : RequestRun α} {w : World} {after : RequestRun α × World} (w' : World)
    (h : Idle run w' after) (hs : w.net.Silent w'.net) : Idle run w after :=
  ⟨h.kept, h.rank, hs.trans h.silent⟩

theorem silent_markFailure (t : Topology AccountId) (endpoint : Endpoint) (net : LocalNet) :
    net.Silent (t.markFailure endpoint net).2.2 := by
  unfold Topology.markFailure
  split
  · exact .refl net
  · dsimp only
    split
    · exact net.silent_report _
    · exact .refl net

/-- What an outcome leads to is no call: a call is begun only by an attempt. -/
theorem settle_idle (run : RequestRun α) (node : AccountId) (endpoint : Option Endpoint) (outcome : Outcome)
    (value : Option α) (w : World) : Idle run w (run.settle node endpoint outcome value w) := by
  unfold settle
  dsimp only
  split
  · -- the node's health is reset, of which no service hears
    cases endpoint <;> dsimp only <;> split
    · exact .finish run w _
    · exact (Idle.finish run _ _).after _ (w.net.silent_report _)
    · exact (Idle.finish run _ _).after _ (.refl w.net)
    · exact (Idle.finish run _ _).after _ (w.net.silent_report _)
  · exact (Idle.finish run _ _).after _ (w.net.silent_report _)
  · rename_i plan error _
    refine .after (w.report (.retryingRequest node.text run.pending.attempt error plan.delay.millis plan.advance)) ?_
      (w.net.silent_report _)
    generalize w.report (.retryingRequest node.text run.pending.attempt error plan.delay.millis plan.advance) = w
    split
    · exact run.proceed_idle plan error w
    · rename_i e _
      have hm := silent_markFailure w.consensus e w.net
      split
      · rename_i consensus net heq
        rw [heq] at hm
        exact (run.proceed_idle plan error _).after _ hm
      · rename_i marked consensus net heq
        rw [heq] at hm
        exact ⟨⟨rfl, rfl, rfl, rfl, rfl, rfl⟩, Nat.le_refl 2,
          hm.trans (net.silent_beginClose marked.retired consensus.closeTimeout)⟩

theorem receive_idle (run : RequestRun α) (c : Calling) (w : World) : Idle run w (run.receive c w) := by
  unfold receive
  dsimp only
  split
  · exact run.settle_idle _ _ _ _ w
  · split
    · exact run.settle_idle _ _ _ _ w
    · rename_i response _
      refine .after (w.report (.responsePayload c.node.text (Hex.encode (Utf8.encode response)))) ?_
        (w.net.silent_report _)
      split
      · exact .finish run _ _
      · split
        · split
          · exact .finish run _ _
          · exact run.settle_idle _ _ _ _ _
        · exact run.settle_idle _ _ _ _ _

theorem silent_lease (t : Topology AccountId) (id : AccountId) (net : LocalNet) :
    net.Silent (t.lease id net).2.2 := by
  unfold Topology.lease
  split
  · exact .refl net
  · exact LocalNet.silent_connect _ net

/-- A step that makes a single call, at a node. -/
structure Calls (run : RequestRun α) (w : World) (node : AccountId) (after : RequestRun α × World) : Prop where
  kept : Kept run after.1
  phase : ∃ c : Calling, c.node = node ∧ after.1.phase = .calling c
  sent : ∃ net channel payload, w.net.Silent net ∧ after.2.net = (net.call channel run.request.method payload).2

theorem attempt_cases (run : RequestRun α) (node : AccountId) (w : World) :
    Idle run w (run.attempt node w) ∨ Calls run w node (run.attempt node w) := by
  have hl := silent_lease w.consensus node w.net
  unfold attempt
  split
  · exact .inl (run.settle_idle _ _ _ _ w)
  · rename_i lease consensus net heq
    rw [heq] at hl
    dsimp only
    split
    · exact .inl ((run.settle_idle _ _ _ _ _).after _ hl)
    · split
      · exact .inl ((Idle.finish run _ _).after _ hl)
      · rename_i channel _ _ payload _
        refine .inr ⟨⟨rfl, rfl, rfl, rfl, rfl, rfl⟩, ⟨_, rfl, rfl⟩, _, channel, payload, ?_, rfl⟩
        exact (hl.trans (net.silent_report _)).trans (LocalNet.silent_report _ _)

/-- A wait for benched candidates is never an empty one. -/
theorem scan_wait_pos {t : Topology AccountId} {candidates : List AccountId} {now : Instant}
    {soonest : Option (Nat × Span)} {places : List Nat} {place : Nat} {span : Span}
    (hs : ∀ best, soonest = some best → 0 < best.2)
    (h : scanPlaces t candidates now soonest places = some (.wait place span)) : 0 < span := by
  induction places generalizing soonest with
  | nil =>
    cases soonest with
    | none => cases h
    | some best =>
      simp only [scanPlaces, Option.map_some, Option.some.injEq, Focus.wait.injEq] at h
      exact h.2 ▸ hs best rfl
  | cons first rest ih =>
    simp only [scanPlaces] at h
    split at h
    · exact ih hs h
    · rename_i health _
      split at h
      · cases h
      · rename_i hn
        have hpos : 0 < health.remaining now := by
          have hlt : ¬ health.eligibleAt ≤ now := by simpa [NodeHealth.isEligible] using hn
          exact Nat.sub_pos_of_lt (Nat.lt_of_not_le hlt)
        refine ih ?_ h
        rintro best ⟨rfl⟩
        cases soonest with
        | none => exact hpos
        | some other =>
          dsimp only
          split
          · exact hpos
          · exact hs other rfl

/-- Looking for a candidate may replace the candidates, and begins no attempt. -/
theorem focus_eq {run : RequestRun α} {t : Topology AccountId} {now : Instant} {f : Focus}
    {p : PendingRequest AccountId} (h : run.focus t now = some (f, p)) :
    scan t p now = some f ∧ p.attempt = run.pending.attempt ∧ p.visited = run.pending.visited ∧
      p.lastError = run.pending.lastError := by
  unfold focus at h
  split at h
  · rename_i f' hf
    cases h
    exact ⟨hf, rfl, rfl, rfl⟩
  · split at h
    · cases h
    · dsimp only at h
      split at h
      · cases h
      · obtain ⟨f', hf, he⟩ := Option.map_eq_some_iff.mp h
        cases he
        exact ⟨hf, rfl, rfl, rfl⟩

theorem focus_counts (p : PendingRequest AccountId) (place : Nat) :
    (p.focus place).attempt = p.attempt ∧ (p.focus place).visited = p.visited ∧
      (p.focus place).lastError = p.lastError := by
  unfold PendingRequest.focus
  split <;> exact ⟨rfl, rfl, rfl⟩

/-- An attempt is begun only within the budgets, and counts against them. -/
theorem begin_ok {p p' : PendingRequest AccountId} {maxAttempts : Nat} {maxVisits : Option Nat} {node : AccountId}
    (h : p.begin? maxAttempts maxVisits = .ok (node, p')) :
    p.attempt < maxAttempts ∧ p'.attempt = p.attempt + 1 ∧
    p'.visited = (if p.visited.contains node then p.visited else node :: p.visited) ∧
    (node ∉ p.visited → ∀ visits, maxVisits = some visits → p.visited.length < visits) := by
  obtain ⟨-, hlt, ⟨hknown, rfl⟩ | ⟨hnew, hfew, rfl⟩⟩ := PendingRequest.begin_cases h
  · exact ⟨hlt, rfl, by simp [hknown], fun hnew => absurd hknown hnew⟩
  · exact ⟨hlt, rfl, by simp [hnew], fun _ => hfew⟩

/-- What is behind each turn: the clock, the candidate that was found, and what is left of the budgets. -/
def Warrants (run : RequestRun α) (w : World) : RequestTurn → Prop
  | .expire => run.policy.requestTimeout ≤ run.elapsed w.now
  | .starve => run.focus w.consensus w.now = none
  | .wait p span => run.elapsed w.now < run.policy.requestTimeout ∧
      ∃ place p', run.focus w.consensus w.now = some (.wait place span, p') ∧ p = p'.focus place
  | .spent p error => ∃ place p', run.focus w.consensus w.now = some (.ready place, p') ∧ p = p'.focus place ∧
      p.begin? run.policy.maxAttempts run.policy.maxNodeVisits = .error error
  | .attempt node p => ∃ place p', run.focus w.consensus w.now = some (.ready place, p') ∧
      (p'.focus place).begin? run.policy.maxAttempts run.policy.maxNodeVisits = .ok (node, p)

theorem turn_warranted (run : RequestRun α) (w : World) : run.Warrants w (run.turn w) := by
  unfold turn
  split
  · assumption
  · rename_i ht
    split
    · assumption
    · rename_i place span p' hf
      exact ⟨Nat.lt_of_not_le ht, place, p', hf, rfl⟩
    · rename_i place p' hf
      split
      · rename_i hbegin
        exact ⟨place, p', hf, rfl, hbegin⟩
      · rename_i hbegin
        exact ⟨place, p', hf, hbegin⟩

/-- A request waits while it has time left, for a candidate that is benched. -/
theorem turn_waits {run : RequestRun α} {w : World} {p : PendingRequest AccountId} {span : Span}
    (h : run.turn w = .wait p span) : run.elapsed w.now < run.policy.requestTimeout ∧
      ∃ place p', run.focus w.consensus w.now = some (.wait place span, p') ∧ p = p'.focus place :=
  (h ▸ run.turn_warranted w : run.Warrants w (.wait p span))

theorem turn_spends {run : RequestRun α} {w : World} {p : PendingRequest AccountId} {error : ClientError}
    (h : run.turn w = .spent p error) :
    ∃ place p', run.focus w.consensus w.now = some (.ready place, p') ∧ p = p'.focus place ∧
      p.begin? run.policy.maxAttempts run.policy.maxNodeVisits = .error error :=
  (h ▸ run.turn_warranted w : run.Warrants w (.spent p error))

theorem turn_begins {run : RequestRun α} {w : World} {node : AccountId} {p : PendingRequest AccountId}
    (h : run.turn w = .attempt node p) :
    ∃ place p', run.focus w.consensus w.now = some (.ready place, p') ∧
      (p'.focus place).begin? run.policy.maxAttempts run.policy.maxNodeVisits = .ok (node, p) :=
  (h ▸ run.turn_warranted w : run.Warrants w (.attempt node p))

theorem turn_wait {run : RequestRun α} {w : World} {p : PendingRequest AccountId} {span : Span}
    (h : run.turn w = .wait p span) :
    0 < span ∧ 0 < run.left w.now ∧ p.attempt = run.pending.attempt ∧ p.visited = run.pending.visited := by
  obtain ⟨ht, place, p', hf, rfl⟩ := turn_waits h
  obtain ⟨hscan, ha, hv, -⟩ := focus_eq hf
  obtain ⟨hca, hcv, -⟩ := focus_counts p' place
  exact ⟨scan_wait_pos (by rintro best ⟨⟩) hscan, Nat.sub_pos_of_lt ht, hca.trans ha, hcv.trans hv⟩

theorem turn_spent {run : RequestRun α} {w : World} {p : PendingRequest AccountId} {error : ClientError}
    (h : run.turn w = .spent p error) :
    p.attempt = run.pending.attempt ∧ p.visited = run.pending.visited := by
  obtain ⟨place, p', hf, rfl, -⟩ := turn_spends h
  obtain ⟨-, ha, hv, -⟩ := focus_eq hf
  obtain ⟨hca, hcv, -⟩ := focus_counts p' place
  exact ⟨hca.trans ha, hcv.trans hv⟩

theorem turn_attempt {run : RequestRun α} {w : World} {node : AccountId} {p : PendingRequest AccountId}
    (h : run.turn w = .attempt node p) :
    run.pending.attempt < run.policy.maxAttempts ∧ p.attempt = run.pending.attempt + 1 ∧
    p.visited = (if run.pending.visited.contains node then run.pending.visited
      else node :: run.pending.visited) ∧
    (node ∉ run.pending.visited → ∀ visits, run.policy.maxNodeVisits = some visits →
      run.pending.visited.length < visits) := by
  obtain ⟨place, p', hf, hbegin⟩ := turn_begins h
  obtain ⟨-, ha, hv, -⟩ := focus_eq hf
  obtain ⟨hca, hcv, -⟩ := focus_counts p' place
  rw [← ha, ← hv, ← hca, ← hcv]
  exact begin_ok hbegin

/-- The node at which a step begins an attempt. -/
def attempted? (run : RequestRun α) (w : World) : Option AccountId :=
  match run.phase with
  | .deciding =>
    match run.turn w with
    | .attempt node _ => some node
    | _ => none
  | _ => none

def isCalling (run : RequestRun α) : Bool :=
  match run.phase with
  | .calling _ => true
  | _ => false

/-- The node that a step calls. -/
def called? (run : RequestRun α) (w : World) : Option AccountId :=
  match run.phase, (run.step w).1.phase with
  | .calling _, _ => none
  | _, .calling c => some c.node
  | _, _ => none

theorem step_deciding {run : RequestRun α} (h : run.phase = .deciding) (w : World) :
    run.step w = run.take w (run.turn w) := by
  rw [← decide_eq]
  simp only [step, h]

/-- A turn that is no attempt keeps the counts and reaches no service. -/
theorem take_idle (run : RequestRun α) (w : World)
    (h : ∀ node p, run.turn w ≠ .attempt node p) : Idle run w (run.take w (run.turn w)) := by
  cases ht : run.turn w with
  | expire => exact (Idle.finish run _ _).after _ (w.net.silent_report _)
  | starve => exact .finish run w _
  | wait p span =>
    obtain ⟨-, -, ha, hv⟩ := turn_wait ht
    exact ⟨⟨rfl, rfl, rfl, rfl, ha, hv⟩, Nat.le_succ 1, w.net.silent_report _⟩
  | spent p error =>
    obtain ⟨ha, hv⟩ := turn_spent ht
    exact ⟨⟨rfl, rfl, rfl, rfl, ha, hv⟩, Nat.zero_le 2, .refl _⟩
  | attempt node p => exact absurd ht (h node p)

theorem Idle.not_calling {run : RequestRun α} {w : World} {after : RequestRun α × World} (h : Idle run w after)
    (c : Calling) : after.1.phase ≠ .calling c := by
  intro hc
  have hr := h.rank
  rw [hc] at hr
  exact absurd hr (Nat.not_succ_le_self 2)

/-- A step leaves the counts alone, or begins an attempt; and an attempt makes a call or none. -/
inductive Stepped (run : RequestRun α) (w : World) : Prop where
  | idle (attempted : run.attempted? w = none) (called : run.called? w = none) (idle : Idle run w (run.step w))
  | failed (node : AccountId) (p : PendingRequest AccountId) (turn : run.turn w = .attempt node p)
      (attempted : run.attempted? w = some node) (called : run.called? w = none)
      (idle : Idle { run with pending := p } w (run.step w))
  | called (node : AccountId) (p : PendingRequest AccountId) (turn : run.turn w = .attempt node p)
      (attempted : run.attempted? w = some node) (called : run.called? w = some node)
      (calls : Calls { run with pending := p } w node (run.step w))

theorem Idle.called_none {run base : RequestRun α} {w : World} (h : Idle base w (run.step w)) :
    run.called? w = none := by
  unfold called?
  split
  · rfl
  · rename_i c hc _
    exact absurd hc (h.not_calling c)
  · rfl

/-- A step from any phase but that of deciding begins no attempt. -/
theorem stepped_idle {run : RequestRun α} {w : World} (hp : run.phase ≠ .deciding)
    (h : Idle run w (run.step w)) : Stepped run w := by
  refine .idle ?_ h.called_none h
  unfold attempted?
  split
  · rename_i hd
    exact absurd hd hp
  · rfl

theorem stepped (run : RequestRun α) (w : World) : Stepped run w := by
  cases hp : run.phase with
  | deciding =>
    cases ht : run.turn w with
    | attempt node p =>
      have ha : run.attempted? w = some node := by simp [attempted?, hp, ht]
      have hs : run.step w = { run with pending := p }.attempt node w := by
        rw [step_deciding hp, ht]
        rfl
      have hcases := attempt_cases { run with pending := p } node w
      rw [← hs] at hcases
      rcases hcases with hi | hc
      · exact .failed node p ht ha hi.called_none hi
      · obtain ⟨c, hnode, hphase⟩ := hc.phase
        exact .called node p ht ha (by simp [called?, hp, hphase, hnode]) hc
    | _ =>
      have hi := run.take_idle w (by simp [ht])
      rw [← step_deciding hp] at hi
      exact .idle (by simp [attempted?, hp, ht]) hi.called_none hi
  | pausing ends =>
    refine stepped_idle (by simp [hp]) ?_
    simp only [step, hp]
    exact ⟨⟨rfl, rfl, rfl, rfl, rfl, rfl⟩, Nat.zero_le 2, .refl _⟩
  | calling c =>
    refine stepped_idle (by simp [hp]) ?_
    simp only [step, hp]
    exact run.receive_idle c w
  | benching b =>
    refine stepped_idle (by simp [hp]) ?_
    simp only [step, hp]
    exact (run.proceed_idle b.plan b.error _).after _
      ((w.net.silent_endClose b.closing).trans (LocalNet.silent_report _ _))
  | finished result =>
    refine stepped_idle (by simp [hp]) ?_
    simp only [step, hp]
    exact ⟨.refl run, by simp [hp, RequestPhase.rank], .refl _⟩

end RequestRun

end LedgerNet
