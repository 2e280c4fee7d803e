import LedgerNet.Proofs.Request.Course

/-!
How the attempts of a request end. Each comes to one outcome: its node has left the topology, its channel cannot be
opened, it is answered, or it is not. The outcome is judged at once, and there are five ways to go on from there.
Attempts end one after the other, so that all but the one under way have ended.
-/
namespace LedgerNet

open Text

/-- The end of an attempt. -/
structure Ending where
  node : AccountId
  /-- Missing when the node had left the topology. -/
  endpoint : Option Endpoint
  outcome : Outcome

namespace Outcome

/-- Whether an outcome speaks against the node. -/
def benches : Outcome → Bool
  | .transportFailure _ retryable => retryable
  | .staleNodeIdentity _ => true
  | _ => false

def isStale : Outcome → Bool
  | .staleNodeIdentity _ => true
  | _ => false

end Outcome

namespace World

/-- Whether a refresh in the background is under way, and how many were triggered. -/
def refreshState (w : World) : Bool × Nat := (w.refreshing, w.triggered)

theorem refreshState_trigger {w w' : World} (h : w'.refreshState = w.refreshState) :
    w'.trigger.2.refreshState = w.trigger.2.refreshState := by
  simp only [refreshState, Prod.mk.injEq] at h
  obtain ⟨hr, ht⟩ := h
  unfold trigger
  rw [hr, ht]
  split
  · simp only [refreshState, hr, ht]
  · rfl

end World

namespace Topology

/-- What the failure of the node at an endpoint makes of a topology. -/
def failedAt (t : Topology AccountId) (endpoint : Endpoint) (now : Instant) : Topology AccountId :=
  (t.markFailure endpoint { now }).2.1

/-- What a retry makes of the node behind an outcome: it is benched for what speaks against it. -/
def blamed (t : Topology AccountId) (endpoint : Option Endpoint) (outcome : Outcome) (now : Instant) :
    Topology AccountId :=
  match if outcome.benches then endpoint else none with
  | some e => t.failedAt e now
  | none => t

theorem markFailure_eq (t : Topology AccountId) (endpoint : Endpoint) (net : LocalNet) :
    (t.markFailure endpoint net).2.1 = t.failedAt endpoint net.now := by
  unfold failedAt markFailure
  split
  · rfl
  · dsimp only
    split <;> rfl

end Topology

/-- An error that one of the hooks of a request can raise. -/
def Request.Raises {α : Type} (r : Request α) (error : ClientError) : Prop :=
  (∃ node, r.encode node = .error error) ∨ (∃ response, r.status response = .error error) ∨
    ∃ response node, r.value response node = .error error

namespace RequestRun

variable {α : Type}

/-- What a call has come to once the wait for it is over, if the request can read the answer. -/
def outcome? (run : RequestRun α) (c : Calling) (w : World) : Option Outcome :=
  if !c.ticket.isHere w.now then
    some (Status.deadlineExceeded s!"no response within {c.budget.millis}ms").classify
  else
    match c.ticket.answer with
    | .error status => some status.classify
    | .ok response =>
      match run.request.status response with
      | .error _ => none
      | .ok status =>
        if (run.request.classify status).isSuccess then
          (run.request.value response c.node).toOption.map fun _ => run.request.classify status
        else some (run.request.classify status)

/-- How an attempt ends that makes no call. -/
def endedAtOnce? (node : AccountId) (w : World) : Option Ending :=
  match w.consensus.lease node w.net with
  | (none, _, _) => some ⟨node, none, (Status.unavailable s!"node {node} left the topology").classify⟩
  | (some lease, _, _) =>
    match lease.channel with
    | .error status => some ⟨node, some lease.endpoint, status.classify⟩
    | .ok _ => none

/-- The attempt that ends with a step. -/
def ending? (run : RequestRun α) (w : World) : Option Ending :=
  match run.phase with
  | .deciding => (run.attempted? w).bind fun node => endedAtOnce? node w
  | .calling c => (run.outcome? c w).map fun outcome => ⟨c.node, some c.endpoint, outcome⟩
  | _ => none

/-- The topology as a step leaves it that leases what it needs and records nothing. -/
def leased (run : RequestRun α) (w : World) : Topology AccountId :=
  match run.attempted? w with
  | some node => (w.consensus.lease node w.net).2.1
  | none => w.consensus

/-- What a step makes of an attempt: its outcome is judged, a hook of the request raises an error, or it is called. -/
inductive Attempted (run : RequestRun α) (w : World) (t : Topology AccountId) (node : AccountId)
    (after : RequestRun α × World) : Option Ending → Prop
  | judged (endpoint : Option Endpoint) (outcome : Outcome) (value : Option α) (w' : World)
      (now : w'.now = w.now) (refresh : w'.refreshState = w.refreshState) (consensus : w'.consensus = t)
      (eq : after = run.settle node endpoint outcome value w') :
      Attempted run w t node after (some ⟨node, endpoint, outcome⟩)
  | raised (error : ClientError) (hook : run.request.Raises error) (eq : after.1 = run.finish (.error error))
      (refresh : after.2.refreshState = w.refreshState) (consensus : after.2.consensus = t) :
      Attempted run w t node after none
  | called (c : Calling) (at' : c.node = node) (eq : after.1 = { run with phase := .calling c })
      (refresh : after.2.refreshState = w.refreshState) (consensus : after.2.consensus = t) :
      Attempted run w t node after none

theorem lease_none {t consensus : Topology AccountId} {node : AccountId} {net net' : LocalNet}
    (h : t.lease node net = (none, consensus, net')) : consensus = t := by
  unfold Topology.lease at h
  split at h
  · cases h
    rfl
  · cases h

theorem attempt_attempted (run : RequestRun α) (node : AccountId) (w : World) :
    Attempted run w (w.consensus.lease node w.net).2.1 node (run.attempt node w) (endedAtOnce? node w) := by
  have hnow : (w.consensus.lease node w.net).2.2.now = w.now := (silent_lease w.consensus node w.net).now
  unfold attempt endedAtOnce?
  cases hl : w.consensus.lease node w.net with
  | mk lease? rest =>
    obtain ⟨consensus, net⟩ := rest
    rw [hl] at hnow
    cases lease? with
    | none => exact .judged none _ none w rfl rfl (lease_none hl).symm rfl
    | some lease =>
      dsimp only at hnow ⊢
      cases hc : lease.channel with
      | error status => exact .judged _ _ none { w with consensus, net } hnow rfl rfl rfl
      | ok channel =>
        dsimp only
        cases he : run.request.encode node with
        | error error => exact .raised error (.inl ⟨node, he⟩) rfl rfl rfl
        | ok payload => exact .called _ rfl rfl rfl rfl

theorem receive_attempted (run : RequestRun α) (c : Calling) (w : World) :
    Attempted run w w.consensus c.node (run.receive c w)
      ((run.outcome? c w).map fun outcome => ⟨c.node, some c.endpoint, outcome⟩) := by
  unfold receive outcome?
  dsimp only
  by_cases hhere : (!c.ticket.isHere w.now) = true
  · rw [if_pos hhere, if_pos hhere]
    exact .judged _ _ none w rfl rfl rfl rfl
  rw [if_neg hhere, if_neg hhere]
  cases ha : c.ticket.answer with
  | error status => exact .judged _ _ none w rfl rfl rfl rfl
  | ok response =>
    dsimp only
    cases hs : run.request.status response with
    | error error => exact .raised error (.inr (.inl ⟨response, hs⟩)) rfl rfl rfl
    | ok status =>
      dsimp only
      by_cases hsuccess : (run.request.classify status).isSuccess = true
      · rw [if_pos hsuccess, if_pos hsuccess]
        cases hv : run.request.value response c.node with
        | error error => exact .raised error (.inr (.inr ⟨response, c.node, hv⟩)) rfl rfl rfl
        | ok value => exact .judged _ _ (some value) (w.report _) rfl rfl rfl rfl
      · rw [if_neg hsuccess, if_neg hsuccess]
        exact .judged _ _ none (w.report _) rfl rfl rfl rfl

/-- How a request goes on from an outcome. -/
inductive GoesOn (run : RequestRun α) (node : AccountId) (endpoint : Option Endpoint) (outcome : Outcome) (w : World)
    (after : RequestRun α × World) : Prop
  | succeeded (success : outcome = .success) (refresh : after.2.refreshState = w.refreshState)
      (result : after.1 = run.finish (.error (.codec "successful response produced no value")) ∨
        ∃ value, after.1 = run.finish (.ok ⟨value, node, run.pending.attempt, run.elapsed w.now⟩))
  | rejected (error : ClientError) (because : run.pending.failure? outcome = some error)
      (final : outcome.isRetryable = false) (eq : after.1 = run.finish (.error error))
      (refresh : after.2.refreshState = w.refreshState) (consensus : after.2.consensus = w.consensus)
  | exhausted (error : ClientError) (because : run.pending.failure? outcome = some error)
      (retryable : outcome.isRetryable = true) (spent : run.policy.maxAttempts ≤ run.pending.attempt)
      (eq : after.1 = run.finish (.error (run.pending.exhausted (some error))))
      (refresh : after.2.refreshState = w.refreshState) (consensus : after.2.consensus = w.consensus)
  | retried (error : ClientError) (w' : World) (because : run.pending.failure? outcome = some error)
      (retryable : outcome.isRetryable = true) (more : run.pending.attempt < run.policy.maxAttempts)
      (eq : after = run.proceed (run.pending.plan run.policy outcome) error w')
      (refresh : w'.refreshState = w.refreshState)
      (consensus : w'.consensus = w.consensus.blamed endpoint outcome w.now)
  | benched (b : Benching) (because : run.pending.failure? outcome = some b.error)
      (retryable : outcome.isRetryable = true) (more : run.pending.attempt < run.policy.maxAttempts)
      (plan : b.plan = run.pending.plan run.policy outcome) (eq : after.1 = { run with phase := .benching b })
      (refresh : after.2.refreshState = w.refreshState)
      (consensus : after.2.consensus = w.consensus.blamed endpoint outcome w.now)

theorem failure_none {p : PendingRequest AccountId} {outcome : Outcome} (h : p.failure? outcome = none) :
    outcome = .success := by
  cases outcome <;> first | rfl | cases h

/-- A pause at the end of a round changes neither whether a node is benched nor whether the book is fetched. -/
theorem plan_flags {p : PendingRequest AccountId} {policy : RetryPolicy} {outcome : Outcome}
    (h : outcome.isRetryable = true) :
    (p.plan policy outcome).penalize = outcome.benches ∧ (p.plan policy outcome).refresh = outcome.isStale := by
  have hbase : (PendingRequest.basePlan policy p.attempt outcome).penalize = outcome.benches ∧
      (PendingRequest.basePlan policy p.attempt outcome).refresh = outcome.isStale := by
    cases outcome with
    | success => cases h
    | transportFailure status retryable => exact ⟨h.symm, rfl⟩
    | transientRejection status retrySameNode => cases retrySameNode <;> exact ⟨rfl, rfl⟩
    | staleNodeIdentity status => exact ⟨rfl, rfl⟩
    | terminalRejection status => cases h
  unfold PendingRequest.plan
  dsimp only
  split
  · exact hbase
  · exact hbase

theorem settle_goes_on (run : RequestRun α) (node : AccountId) (endpoint : Option Endpoint) (outcome : Outcome)
    (value : Option α) (w : World) : GoesOn run node endpoint outcome w (run.settle node endpoint outcome value w) := by
  unfold settle PendingRequest.judge
  dsimp only
  cases hf : run.pending.failure? outcome with
  | none =>
    dsimp only
    obtain rfl := failure_none hf
    -- whether there is a value and whether the node is marked do not depend on each other
    cases endpoint <;> cases value
    · exact .succeeded rfl rfl (.inl rfl)
    · exact .succeeded rfl rfl (.inr ⟨_, rfl⟩)
    · exact .succeeded rfl rfl (.inl rfl)
    · exact .succeeded rfl rfl (.inr ⟨_, rfl⟩)
  | some error =>
    dsimp only
    cases hr : outcome.isRetryable with
    | false => exact .rejected error hf hr rfl rfl rfl
    | true =>
      simp only [Bool.not_true, Bool.false_eq_true, if_false]
      by_cases hspent : run.policy.maxAttempts ≤ run.pending.attempt
      · rw [if_pos hspent]
        exact .exhausted error hf hr hspent rfl rfl rfl
      rw [if_neg hspent]
      have hmore := Nat.lt_of_not_le hspent
      dsimp only
      rw [(plan_flags hr).1]
      generalize hreport : w.report (.retryingRequest node.text run.pending.attempt error
        (run.pending.plan run.policy outcome).delay.millis (run.pending.plan run.policy outcome).advance) = w'
      have hrefresh : w'.refreshState = w.refreshState := by rw [← hreport]; rfl
      have hconsensus : w'.consensus = w.consensus := by rw [← hreport]; rfl
      have hnow : w'.net.now = w.now := by rw [← hreport]; rfl
      cases ht : (if outcome.benches = true then endpoint else none) with
      | none =>
        refine .retried error w' hf hr hmore rfl hrefresh (hconsensus.trans ?_)
        simp only [Topology.blamed, ht]
      | some e =>
        have hblamed : (w'.consensus.markFailure e w'.net).2.1 = w.consensus.blamed endpoint outcome w.now := by
          simp only [Topology.blamed, ht, Topology.markFailure_eq, hconsensus, hnow]
        dsimp only
        cases hm : w'.consensus.markFailure e w'.net with
        | mk marked? rest =>
          obtain ⟨consensus, net⟩ := rest
          rw [hm] at hblamed
          -- a node that is gone by now has no channel to wait for
          cases marked? with
          | none => exact .retried error { w' with consensus, net } hf hr hmore rfl hrefresh hblamed
          | some marked => exact .benched _ hf hr hmore rfl rfl hrefresh hblamed

/-- What a retry remembers, and where it goes on. -/
structure Proceeds (run : RequestRun α) (plan : RetryPlan) (error : ClientError) (w : World)
    (after : RequestRun α × World) : Prop where
  kept : Kept run after.1
  lastError : after.1.pending.lastError = some error
  phase : after.1.phase = .deciding ∨ ∃ ends, after.1.phase = .pausing ends
  consensus : after.2.consensus = w.consensus
  refresh : after.2.refreshState = if plan.refresh && run.refreshes then w.trigger.2.refreshState else w.refreshState

theorem proceed_proceeds (run : RequestRun α) (plan : RetryPlan) (error : ClientError) (w : World) :
    Proceeds run plan error w (run.proceed plan error w) := by
  refine ⟨(run.proceed_idle plan error w).kept, ?_, ?_, ?_, ?_⟩
  · have hlast := (run.pending.apply_keeps plan error).2.2.2
    unfold proceed
    dsimp only
    generalize (if plan.refresh && run.refreshes then w.trigger.2 else w) = w'
    split
    · split <;> exact hlast
    · exact hlast
  · unfold proceed
    dsimp only
    split
    · exact .inl rfl
    · exact .inr ⟨_, rfl⟩
  · unfold proceed World.trigger
    dsimp only
    split
    · split <;> rfl
    · rfl
  · unfold proceed
    dsimp only
    split <;> rfl

/-- A request goes on with its retry once the channel of the node that was benched is closed. -/
theorem step_benching {run : RequestRun α} {b : Benching} (hp : run.phase = .benching b) (w : World) :
    ∃ w', w'.consensus = w.consensus ∧ w'.refreshState = w.refreshState ∧
      Proceeds run b.plan b.error w' (run.step w) := by
  refine ⟨{ w with net := w.net.endClose b.closing }.report
    (.nodeUnhealthy b.endpoint b.health.backoff.millis b.health.failures), rfl, rfl, ?_⟩
  simp only [step, hp]
  exact run.proceed_proceeds b.plan b.error _

/-- A step that begins an attempt. -/
theorem step_attempted {run : RequestRun α} {w : World} {node : AccountId} {p : PendingRequest AccountId}
    (hp : run.phase = .deciding) (ht : run.turn w = .attempt node p) :
    Attempted { run with pending := p } w (run.leased w) node (run.step w) (run.ending? w) := by
  have ha : run.attempted? w = some node := by simp [attempted?, hp, ht]
  have hs : run.step w = { run with pending := p }.attempt node w := by
    rw [step_deciding hp, ht]
    rfl
  have hl : run.leased w = (w.consensus.lease node w.net).2.1 := by simp only [leased, ha]
  have he : run.ending? w = endedAtOnce? node w := by simp only [ending?, hp, ha, Option.bind_some]
  rw [hs, hl, he]
  exact attempt_attempted _ node w

theorem attempted_some {run : RequestRun α} {w : World} {node : AccountId} (h : run.attempted? w = some node) :
    run.phase = .deciding ∧ ∃ p, run.turn w = .attempt node p := by
  unfold attempted? at h
  split at h
  · rename_i hp
    split at h
    · rename_i node' p ht
      cases h
      exact ⟨hp, p, ht⟩
    · cases h
  · cases h

theorem attempted_none {run : RequestRun α} {w : World} (h : run.phase ≠ .deciding) : run.attempted? w = none := by
  cases ha : run.attempted? w with
  | none => rfl
  | some node => exact absurd (attempted_some ha).1 h

/-- A step that ends a call. -/
theorem step_received {run : RequestRun α} {w : World} {c : Calling} (hp : run.phase = .calling c) :
    Attempted run w (run.leased w) c.node (run.step w) (run.ending? w) := by
  have hl : run.leased w = w.consensus := by simp only [leased, attempted_none (w := w) (by rw [hp]; simp)]
  have hs : run.step w = run.receive c w := by simp only [step, hp]
  have he : run.ending? w = (run.outcome? c w).map fun outcome => ⟨c.node, some c.endpoint, outcome⟩ := by
    simp only [ending?, hp]
  rw [hs, hl, he]
  exact receive_attempted run c w

theorem Attempted.kept {run : RequestRun α} {w : World} {t : Topology AccountId} {node : AccountId}
    {after : RequestRun α × World} {ending : Option Ending} (h : Attempted run w t node after ending) :
    Kept run after.1 := by
  cases h with
  | judged endpoint outcome value w' _ _ _ eq =>
    rw [eq]
    exact (run.settle_idle node endpoint outcome value w').kept
  | raised error _ eq =>
    rw [eq]
    exact ⟨rfl, rfl, rfl, rfl, rfl, rfl⟩
  | called c _ eq =>
    rw [eq]
    exact ⟨rfl, rfl, rfl, rfl, rfl, rfl⟩

theorem turn_current {run : RequestRun α} {w : World} {node : AccountId} {p : PendingRequest AccountId}
    (h : run.turn w = .attempt node p) : p.current? = some node := by
  obtain ⟨place, p', -, hbegin⟩ := turn_begins h
  exact (PendingRequest.begin_keeps hbegin).2.1

end RequestRun

namespace Course
open RequestRun

variable {α : Type} {n : Nat} {e : Ending}

/-- The attempts that have ended, in order. -/
def endings (c : Course α) (n : Nat) : List Ending :=
  (List.range n).filterMap fun k => (c.run k).ending? (c.before k)

theorem endings_succ (c : Course α) (n : Nat) :
    c.endings (n + 1) = c.endings n ++ ((c.run n).ending? (c.before n)).toList :=
  filterMap_range_succ _ n

/-- Attempts end one after the other, in the order in which they were begun, at the candidate whose turn it is. -/
def InTurn (c : Course α) (n : Nat) : Prop :=
  match (c.run n).phase with
  | .calling call =>
    c.attempts n = (c.endings n).map (·.node) ++ [call.node] ∧ (c.run n).pending.current? = some call.node
  | .finished _ => (c.endings n).map (·.node) <+: c.attempts n
  | _ => c.attempts n = (c.endings n).map (·.node)

theorem run_finished {c : Course α} {result : Except ClientError (Executed α)}
    (hp : (c.run n).phase = .finished result) : c.run (n + 1) = c.run n := by
  rw [run_succ]
  simp only [step, hp]

/-- What a step has to do with attempts: nothing, or it begins or ends the latest. -/
inductive Deals (c : Course α) (n : Nat) : Prop
  | none (attempts : c.attempts (n + 1) = c.attempts n) (ending : (c.run n).ending? (c.before n) = none)
      (attempted : (c.run n).attempted? (c.before n) = none) (free : ∀ call, (c.run n).phase ≠ .calling call)
      (idle : Idle (c.run n) (c.before n) (c.after (n + 1)))
  | one (base : RequestRun α) (node : AccountId) (running : (c.run n).result? = none)
      (current : base.pending.current? = some node)
      (last : c.attempts (n + 1) = (c.endings n).map (·.node) ++ [node])
      (attempted : Attempted base (c.before n) ((c.run n).leased (c.before n)) node (c.after (n + 1))
        ((c.run n).ending? (c.before n)))

theorem deals {c : Course α} (h : c.InTurn n) : c.Deals n := by
  cases ha : (c.run n).attempted? (c.before n) with
  | some node =>
    obtain ⟨hp, p, ht⟩ := attempted_some ha
    rw [InTurn, hp] at h
    refine .one _ node (by simp only [result?, hp]) (turn_current ht) ?_ (step_attempted hp ht)
    rw [attempts_succ, ha, ← h]
    rfl
  | none =>
    have hl : c.attempts (n + 1) = c.attempts n := by rw [attempts_succ, ha]; exact List.append_nil _
    have hidle : Idle (c.run n) (c.before n) (c.after (n + 1)) := by
      cases stepped (c.run n) (c.before n) with
      | idle _ _ hi => exact hi
      | failed node _ _ ha' => cases ha.symm.trans ha'
      | called node _ _ ha' => cases ha.symm.trans ha'
    cases hp : (c.run n).phase with
    | calling call =>
      rw [InTurn, hp] at h
      exact .one _ call.node (by simp only [result?, hp]) h.2 (hl.trans h.1) (step_received hp)
    | deciding => exact .none hl (by simp only [ending?, hp, ha, Option.bind_none]) ha (by simp [hp]) hidle
    | _ => exact .none hl (by simp only [ending?, hp]) ha (by simp [hp]) hidle

theorem inTurn_of_eq {c : Course α} (h : c.attempts n = (c.endings n).map (·.node))
    (hp : ∀ call, (c.run n).phase ≠ .calling call) : c.InTurn n := by
  unfold InTurn
  split
  · rename_i call hc
    exact absurd hc (hp call)
  · exact h ▸ List.prefix_refl _
  · exact h

theorem inTurn (c : Course α) (n : Nat) : c.InTurn n := by
  induction n with
  | zero =>
    refine inTurn_of_eq rfl fun call hc => ?_
    have hr : (c.run 0).phase.rank = 0 := by
      unfold run after start
      dsimp only
      split <;> split <;> rfl
    rw [hc] at hr
    cases hr
  | succ n ih =>
    cases deals ih with
    | none hl he _ hfree hidle =>
      have hends : c.endings (n + 1) = c.endings n := by rw [endings_succ, he]; exact List.append_nil _
      cases hp : (c.run n).phase with
      | calling call => exact absurd hp (hfree call)
      | finished result =>
        -- an attempt may be left whose answer could not be read
        unfold InTurn at ih ⊢
        rw [run_finished hp, hl, hends]
        exact ih
      | _ =>
        rw [InTurn, hp] at ih
        refine inTurn_of_eq ?_ hidle.not_calling
        rw [hl, hends]
        exact ih
    | one base node _ hcurrent hlast hattempted =>
      have hends := c.endings_succ n
      generalize (c.run n).ending? (c.before n) = ending at hattempted hends
      cases hattempted with
      | judged endpoint outcome value w' _ _ _ eq =>
        refine inTurn_of_eq ?_ ?_
        · rw [hlast, hends, List.map_append]
          rfl
        · intro call
          rw [run, eq]
          exact (base.settle_idle node endpoint outcome value w').not_calling call
      | raised error _ eq =>
        have hp : (c.run (n + 1)).phase = .finished (.error error) := by rw [run, eq]; rfl
        rw [InTurn, hp]
        refine ⟨[node], ?_⟩
        rw [hlast, hends]
        exact congrArg (· ++ [node]) (congrArg (List.map Ending.node) (List.append_nil _))
      | called call at' eq =>
        have hp : (c.run (n + 1)).phase = .calling call := by rw [run, eq]
        have hcall : (c.run (n + 1)).pending.current? = some call.node := by rw [run, eq, at']; exact hcurrent
        rw [InTurn, hp]
        refine ⟨?_, hcall⟩
        rw [hlast, hends, at']
        exact congrArg (· ++ [node]) (congrArg (List.map Ending.node) (List.append_nil _).symm)

/-- In the step that ends an attempt all that were begun have ended. -/
theorem attempts_ended {c : Course α} (h : (c.run n).ending? (c.before n) = some e) :
    c.attempts (n + 1) = (c.endings (n + 1)).map (·.node) := by
  cases deals (c.inTurn n) with
  | none _ he => rw [he] at h; cases h
  | one base node _ _ hlast hattempted =>
    have hends := c.endings_succ n
    generalize (c.run n).ending? (c.before n) = ending at hattempted hends h
    cases hattempted with
    | judged =>
      rw [hlast, hends, List.map_append]
      rfl
    | raised => cases h
    | called => cases h

theorem refreshes_eq (c : Course α) (n : Nat) : (c.run n).refreshes = c.refreshes := by
  induction n with
  | zero => rfl
  | succ n ih =>
    cases stepped (c.run n) (c.before n) with
    | idle _ _ hi => exact hi.kept.refreshes.trans ih
    | failed _ _ _ _ _ hi => exact hi.kept.refreshes.trans ih
    | called _ _ _ _ _ hc => exact hc.kept.refreshes.trans ih

/-- The request as it stands when the outcome of an attempt is judged, and the world of the judgement. -/
structure Judged (c : Course α) (n : Nat) (e : Ending) (base : RequestRun α) (w : World) : Prop where
  policy : base.policy = c.policy
  refreshes : base.refreshes = c.refreshes
  number : base.pending.attempt = (c.attempts (n + 1)).length
  visited : base.pending.visited.length = (c.attempts (n + 1)).dedup.length
  current : base.pending.current? = some e.node
  now : w.now = (c.before n).now
  refresh : w.refreshState = (c.before n).refreshState
  consensus : w.consensus = (c.run n).leased (c.before n)
  goesOn : GoesOn base e.node e.endpoint e.outcome w (c.after (n + 1))

theorem judged {c : Course α} (h : (c.run n).ending? (c.before n) = some e) : ∃ base w, c.Judged n e base w := by
  cases deals (c.inTurn n) with
  | none _ he => rw [he] at h; cases h
  | one base node _ hcurrent _ hattempted =>
    have hkept : Kept base (c.run (n + 1)) := hattempted.kept
    generalize (c.run n).ending? (c.before n) = ending at hattempted h
    cases hattempted with
    | raised => cases h
    | called => cases h
    | judged endpoint outcome value w hnow hrefresh hconsensus eq =>
      cases h
      have hcounted := c.counted (n + 1)
      refine ⟨base, w, hkept.policy.symm.trans hcounted.policy, hkept.refreshes.symm.trans (c.refreshes_eq (n + 1)),
        hkept.attempt.symm.trans hcounted.attempt, ?_, hcurrent, hnow, hrefresh, hconsensus, ?_⟩
      · rw [c.distinct_attempts, hkept.visited]
      · rw [eq]
        exact base.settle_goes_on node endpoint outcome value w

/-- A request with so many attempts, to a node that does not listen. -/
def unanswered (maxAttempts : Nat) : Course Unit where
  request := {
    method := "ping"
    nodeIds := none
    encode := fun _ => .ok ""
    status := fun _ => .ok .ok
    value := fun _ _ => .ok () }
  policy := { maxAttempts }
  refreshes := false
  world := {
    net := {}
    consensus := (Topology.empty {}).enter 0 (.inProcess "n", ⟨0, 0, 3⟩)
    mirror := .empty {} }
  meddle _ w := w

/-- What comes of each of its attempts. -/
def silence : Ending :=
  ⟨⟨0, 0, 3⟩, some (.inProcess "n"), (Status.unavailable "no service listening on in-process:n").classify⟩

end Course

end LedgerNet
