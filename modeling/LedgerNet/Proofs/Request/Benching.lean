import Mathlib
import LedgerNet.Proofs.Request.Ending
import LedgerNet.Proofs.Topology.Running

/-!
When the failure of an attempt is held against its node. Every failure is, but for one: that of the last attempt which
the budget allows ends the request before anything is recorded.
-/
namespace LedgerNet

namespace Topology

variable {nodes : List (Node AccountId)} {endpoint : Endpoint} {node : Node AccountId}

theorem find_updateAt {f : Node AccountId → Node AccountId} (hf : ∀ n, (f n).endpoint = n.endpoint)
    (h : nodes.find? (·.endpoint == endpoint) = some node) :
    (updateAt endpoint f nodes).find? (·.endpoint == endpoint) = some (f node) := by
  induction nodes with
  | nil => cases h
  | cons first rest ih =>
    cases hfirst : first.endpoint == endpoint with
    | true =>
      simp only [List.find?_cons, hfirst, Option.some.injEq] at h
      subst h
      simp only [updateAt, hfirst, if_true, List.find?_cons, hf]
    | false =>
      simp only [List.find?_cons, hfirst] at h
      simp only [updateAt, hfirst, Bool.false_eq_true, if_false, List.find?_cons, ih h]

/-- A failure leaves its mark on a topology that has the node. -/
theorem failedAt_ne {t : Topology AccountId} (h : t.nodeAt? endpoint = some node) (now : Instant) :
    t.failedAt endpoint now ≠ t := by
  intro heq
  unfold failedAt markFailure at heq
  simp only [h] at heq
  split at heq
  · -- a node that has failed too often is removed
    have hnodes : removeAt endpoint t.nodes = t.nodes := congrArg Topology.nodes heq
    obtain ⟨before, after, hsplit, -, hremove⟩ := nodeAt_split h
    have hlength : (before ++ node :: after).length = (before ++ after).length := by
      rw [← hsplit, ← hremove, hnodes]
    simp at hlength
  · -- any other becomes eligible later than before
    have hnodes := congrArg Topology.nodes heq
    dsimp only at hnodes
    have hfound := find_updateAt
      (f := fun n => { n with health := node.health.fail t.backoff now }) (fun _ => rfl) h
    rw [hnodes] at hfound
    have hhealth : node.health.eligibleAt = (node.health.fail t.backoff now).eligibleAt :=
      congrArg (·.health.eligibleAt) (Option.some.inj (h.symm.trans hfound))
    have hlater : node.health.eligibleAt < (node.health.fail t.backoff now).eligibleAt :=
      Nat.lt_of_lt_of_le (Nat.lt_succ_self _) (Nat.le_max_right _ _)
    exact Nat.lt_irrefl _ (hhealth ▸ hlater)

end Topology

namespace Course
open RequestRun

variable {α : Type} {n : Nat} {e : Ending} {endpoint : Endpoint}

/-- A step has the address book fetched anew, unless that is under way. -/
def Triggers (c : Course α) (n : Nat) : Prop :=
  (c.after (n + 1)).2.refreshState = (c.before n).trigger.2.refreshState

/-- The failure of the attempt that ends with a step is held against its node, once; and where the node is no longer
the account that was addressed, the address book is fetched anew, with that step or the next. -/
structure Heeds (c : Course α) (n : Nat) (e : Ending) (endpoint : Endpoint) : Prop where
  recorded : (c.after (n + 1)).2.consensus = ((c.run n).leased (c.before n)).failedAt endpoint (c.before n).now
  refreshed : e.outcome.isStale = true → c.refreshes = true → c.Triggers n ∨
    ((c.after (n + 1)).2.refreshState = (c.before n).refreshState ∧ c.Triggers (n + 1))

/-- A step that has nothing to do with an attempt leaves the nodes alone. -/
theorem quiet_consensus {run : RequestRun α} {w : World} (ha : run.attempted? w = none)
    (hfree : ∀ call, run.phase ≠ .calling call) : (run.step w).2.consensus = w.consensus := by
  cases hp : run.phase with
  | deciding =>
    rw [step_deciding hp]
    cases ht : run.turn w with
    | attempt node p => simp [attempted?, hp, ht] at ha
    | _ => rfl
  | calling call => exact absurd hp (hfree call)
  | benching b =>
    obtain ⟨w', hconsensus, -, hproceeds⟩ := step_benching hp w
    exact hproceeds.consensus.trans hconsensus
  | _ => simp only [step, hp]

theorem recorded_none {c : Course α} (h : (c.run n).ending? (c.before n) = none) :
    (c.after (n + 1)).2.consensus = (c.run n).leased (c.before n) := by
  cases deals (c.inTurn n) with
  | none _ _ ha hfree =>
    have hl : (c.run n).leased (c.before n) = (c.before n).consensus := by simp only [leased, ha]
    rw [hl]
    exact quiet_consensus ha hfree
  | one base node _ _ _ hattempted =>
    rw [h] at hattempted
    cases hattempted with
    | raised _ _ _ _ consensus => exact consensus
    | called _ _ _ _ consensus => exact consensus

theorem benches_retryable {outcome : Outcome} (h : outcome.benches = true) : outcome.isRetryable = true := by
  cases outcome <;> first | exact h | rfl

/-- What the step after the one in which a node was benched does about the address book. -/
theorem benching_triggers {c : Course α} {b : Benching} (hp : (c.run n).phase = .benching b)
    (hb : b.plan.refresh = true) (hr : c.refreshes = true) : c.Triggers n := by
  obtain ⟨w', -, hrefresh, hproceeds⟩ := step_benching hp (c.before n)
  have htriggered := hproceeds.refresh
  rw [hb, c.refreshes_eq n, hr] at htriggered
  exact htriggered.trans (World.refreshState_trigger hrefresh)

theorem Judged.heeds {c : Course α} {base : RequestRun α} {w : World} (h : c.Judged n e base w)
    (hpoint : e.endpoint = some endpoint) (hb : e.outcome.benches = true)
    (hmore : (c.attempts (n + 1)).length < c.policy.maxAttempts) : c.Heeds n e endpoint := by
  have hblamed : w.consensus.blamed e.endpoint e.outcome w.now =
      ((c.run n).leased (c.before n)).failedAt endpoint (c.before n).now := by
    simp only [Topology.blamed, hb, if_true, hpoint, h.consensus, h.now]
  have hretryable := benches_retryable hb
  have hflags := @plan_flags base.pending base.policy e.outcome hretryable
  cases h.goesOn with
  | succeeded success => rw [success] at hb; cases hb
  | rejected _ _ final => rw [hretryable] at final; cases final
  | exhausted _ _ _ spent => rw [h.policy, h.number] at spent; exact absurd hmore (Nat.not_lt_of_le spent)
  | retried error w' _ _ _ eq refresh consensus =>
    have hproceeds := base.proceed_proceeds (base.pending.plan base.policy e.outcome) error w'
    rw [← eq] at hproceeds
    refine ⟨hproceeds.consensus.trans (consensus.trans hblamed), fun hstale hr => .inl ?_⟩
    have hrefresh := hproceeds.refresh
    rw [hflags.2, hstale, h.refreshes, hr] at hrefresh
    exact hrefresh.trans (World.refreshState_trigger (refresh.trans h.refresh))
  | benched b _ _ _ plan eq refresh consensus =>
    refine ⟨consensus.trans hblamed, fun hstale hr => .inr ⟨refresh.trans h.refresh, ?_⟩⟩
    have hp : (c.run (n + 1)).phase = .benching b := by rw [run, eq]
    exact benching_triggers hp (by rw [plan, hflags.2, hstale]) hr

/-- The failure of the last attempt that the budget allows leaves no mark. -/
theorem Judged.unheeded {c : Course α} {base : RequestRun α} {w : World} (h : c.Judged n e base w)
    (hb : e.outcome.benches = true) (hspent : c.policy.maxAttempts ≤ (c.attempts (n + 1)).length) :
    (c.after (n + 1)).2.consensus = (c.run n).leased (c.before n) ∧
      (c.after (n + 1)).2.refreshState = (c.before n).refreshState ∧ (c.run (n + 1)).result?.isSome = true := by
  have hretryable := benches_retryable hb
  rw [← h.policy, ← h.number] at hspent
  cases h.goesOn with
  | succeeded success => rw [success] at hb; cases hb
  | rejected _ _ final => rw [hretryable] at final; cases final
  | exhausted _ _ _ _ eq refresh consensus =>
    refine ⟨consensus.trans h.consensus, refresh.trans h.refresh, ?_⟩
    rw [run, eq]
    rfl
  | retried _ _ _ _ more => exact absurd more (Nat.not_lt_of_le hspent)
  | benched _ _ _ more => exact absurd more (Nat.not_lt_of_le hspent)

/-- An attempt whose failure is held against a node that is still there was not the last. -/
theorem Heeds.attempts_lt {c : Course α} (h : c.Heeds n e endpoint) (he : (c.run n).ending? (c.before n) = some e)
    (hb : e.outcome.benches = true) (hheld : (((c.run n).leased (c.before n)).nodeAt? endpoint).isSome = true) :
    (c.attempts (n + 1)).length < c.policy.maxAttempts := by
  obtain ⟨base, w, hjudged⟩ := judged he
  obtain ⟨node, hnode⟩ := Option.isSome_iff_exists.mp hheld
  refine Nat.lt_of_not_le fun hspent => ?_
  have hunheeded := (hjudged.unheeded hb hspent).1
  exact Topology.failedAt_ne hnode _ (h.recorded.symm.trans hunheeded)

/-- Nothing is recorded of a node but at the end of an attempt. The failure of one that ends is held against its node,
once, if it is not the last attempt that the budget allows; and if the node is still there, only then. -/
theorem heeds_iff (c : Course α) (n : Nat) :
    ((c.run n).ending? (c.before n) = none → (c.after (n + 1)).2.consensus = (c.run n).leased (c.before n)) ∧
    ∀ e endpoint, (c.run n).ending? (c.before n) = some e → e.endpoint = some endpoint → e.outcome.benches = true →
      c.attempts (n + 1) = (c.endings (n + 1)).map (·.node) ∧
      ((c.attempts (n + 1)).length < c.policy.maxAttempts → c.Heeds n e endpoint) ∧
      ((((c.run n).leased (c.before n)).nodeAt? endpoint).isSome = true →
        (c.Heeds n e endpoint ↔ (c.attempts (n + 1)).length < c.policy.maxAttempts)) := by
  refine ⟨recorded_none, fun e endpoint he hpoint hb => ?_⟩
  have hheeds : (c.attempts (n + 1)).length < c.policy.maxAttempts → c.Heeds n e endpoint := by
    obtain ⟨base, w, hjudged⟩ := judged he
    exact hjudged.heeds hpoint hb
  exact ⟨attempts_ended he, hheeds, fun hheld => ⟨fun h => h.attempts_lt he hb hheld, hheeds⟩⟩

theorem heeds_unanswered : ((unanswered 2).run 1).ending? ((unanswered 2).before 1) = some silence ∧
    (unanswered 2).Heeds 1 silence (.inProcess "n") := by
  have hending : ((unanswered 2).run 1).ending? ((unanswered 2).before 1) = some silence := by cbv
  have hnumber : ((unanswered 2).attempts 2).length = 1 := by decide_cbv
  refine ⟨hending, ?_⟩
  exact (((unanswered 2).heeds_iff 1).2 silence (.inProcess "n") hending rfl rfl).2.1 (by rw [hnumber]; decide)

theorem not_always_heeds : ¬ ∀ (c : Course Unit) (n : Nat) (e : Ending) (endpoint : Endpoint),
    (c.run n).ending? (c.before n) = some e → e.endpoint = some endpoint → e.outcome.benches = true →
      (((c.run n).leased (c.before n)).nodeAt? endpoint).isSome = true → c.Heeds n e endpoint := by
  intro hall
  have hending : ((unanswered 1).run 1).ending? ((unanswered 1).before 1) = some silence := by cbv
  have hheld : ((((unanswered 1).run 1).leased ((unanswered 1).before 1)).nodeAt? (.inProcess "n")).isSome = true := by
    decide_cbv
  have hnumber : ((unanswered 1).attempts 2).length = 1 := by decide_cbv
  have hlast := (hall (unanswered 1) 1 silence (.inProcess "n") hending rfl rfl hheld).attempts_lt hending rfl hheld
  rw [hnumber] at hlast
  exact Nat.lt_irrefl 1 hlast

end Course

end LedgerNet
