import Mathlib.Data.Nat.Find
import LedgerNet.Proofs.Request.Course

/-!
Every request comes to one result within its budgets. There are three kinds of steps: some begin an attempt, some
wait for a benched node, and some only go on with an attempt or end a wait. The first spend an attempt, the second
spend time, and the third bring the request nearer to where it decides; so a weighted sum of the three shrinks with
every step, whatever else happens in the world.
-/
namespace LedgerNet

namespace RequestRun

variable {α : Type}

/-- What a run may still spend. -/
def cost (run : RequestRun α) (now : Instant) : Nat :=
  4 * (run.policy.maxAttempts - run.pending.attempt) + 2 * run.left now + run.phase.rank

/-- Only a finished run waits forever. -/
theorem await_over {run : RequestRun α} (h : run.result? = none) (w w' : World) :
    run.waiting.isOver (run.await w w').now = true := by
  have hnow : (run.await w w').now = max w'.now (max w.now (run.waiting.instant?.getD 0)) := rfl
  rw [hnow]
  cases hw : run.waiting with
  | nothing => rfl
  | time t =>
    have ht : t ≤ max w'.now (max w.now t) := Nat.le_trans (Nat.le_max_right _ _) (Nat.le_max_right _ _)
    exact decide_eq_true ht
  | forever =>
    cases hp : run.phase with
    | finished result => simp [result?, hp] at h
    | calling c =>
      simp only [waiting, hp, Waiting.sooner] at hw
      split at hw <;> cases hw
    | _ => simp [waiting, hp] at hw

theorem left_anti {run : RequestRun α} {now now' : Instant} (h : now ≤ now') : run.left now' ≤ run.left now :=
  Nat.sub_le_sub_left (Nat.sub_le_sub_right h _) _

theorem Kept.left {run run' : RequestRun α} (h : Kept run run') (now : Instant) : run'.left now = run.left now := by
  simp only [RequestRun.left, elapsed, h.policy, h.startedAt]

/-- A step that only goes on costs what it brings the request nearer to a decision. -/
theorem Kept.cost_lt {run run' : RequestRun α} (h : Kept run run') {now now' : Instant} (hn : now ≤ now')
    (hr : run'.phase.rank < run.phase.rank) : run'.cost now' < run.cost now := by
  have hl : run'.left now' ≤ run.left now := (h.left now').symm ▸ left_anti hn
  simp only [cost, h.policy, h.attempt]
  exact Nat.add_lt_add_of_le_of_lt (Nat.add_le_add_left (Nat.mul_le_mul_left 2 hl) _) hr

theorem proceed_rank (run : RequestRun α) (plan : RetryPlan) (error : ClientError) (w : World) :
    (run.proceed plan error w).1.phase.rank ≤ 1 := by
  unfold proceed
  dsimp only
  split
  · exact Nat.zero_le 1
  · exact Nat.le_refl 1

/-- Time that goes by while there is some left. -/
theorem later_left {run : RequestRun α} {now now' : Instant} (hleft : 0 < run.left now)
    (hstart : run.startedAt ≤ now) (h : now < now') : run.left now' < run.left now :=
  Nat.sub_lt_sub_left (Nat.lt_of_sub_pos hleft) (Nat.sub_lt_sub_right hstart h)

/-- A pause for benched candidates ends after it has begun, and with the time of the request at the latest. -/
theorem pause_bounds {run : RequestRun α} {w : World} {p : PendingRequest AccountId} {span : Span}
    (ht : run.turn w = .wait p span) (hstart : run.startedAt ≤ w.now) :
    w.now < Instant.wake (w.now + min span (run.left w.now)) ∧
      Instant.wake (w.now + min span (run.left w.now)) ≤ Instant.wake (run.startedAt + run.policy.requestTimeout) := by
  obtain ⟨hspan, hleft, -, -⟩ := turn_wait ht
  have hmin : 0 < min span (run.left w.now) := Nat.lt_min.mpr ⟨hspan, hleft⟩
  constructor
  · exact Nat.lt_of_lt_of_le (Nat.lt_add_of_pos_right hmin) (Instant.le_wake _)
  · refine Instant.wake_mono ?_
    have hdeadline : w.now + run.left w.now = run.startedAt + run.policy.requestTimeout := by
      have helapsed : run.elapsed w.now + run.startedAt = w.now := Nat.sub_add_cancel hstart
      have htotal : run.elapsed w.now + run.left w.now = run.policy.requestTimeout :=
        Nat.add_sub_of_le (Nat.le_of_lt (Nat.lt_of_sub_pos hleft))
      calc w.now + run.left w.now = run.elapsed w.now + run.startedAt + run.left w.now := by rw [helapsed]
        _ = run.startedAt + (run.elapsed w.now + run.left w.now) := by
          rw [Nat.add_comm (run.elapsed w.now), Nat.add_assoc]
        _ = run.startedAt + run.policy.requestTimeout := by rw [htotal]
    rw [← hdeadline]
    exact Nat.add_le_add_left (Nat.min_le_right _ _) _

theorem step_wait {run : RequestRun α} {w : World} {p : PendingRequest AccountId} {span : Span}
    (hp : run.phase = .deciding) (ht : run.turn w = .wait p span) :
    (run.step w).1 = { run with
      pending := p, phase := .pausing (Instant.wake (w.now + min span (run.left w.now))) } := by
  rw [step_deciding hp, ht]
  rfl

/-- A pause for benched candidates spends time. -/
theorem wait_cost {run : RequestRun α} {w : World} {p : PendingRequest AccountId} {span : Span}
    (hp : run.phase = .deciding) (ht : run.turn w = .wait p span) (hstart : run.startedAt ≤ w.now) {now' : Instant}
    (hn : (run.step w).1.waiting.isOver now' = true) : (run.step w).1.cost now' < run.cost w.now := by
  obtain ⟨-, hleft, ha, -⟩ := turn_wait ht
  rw [step_wait hp ht] at hn ⊢
  have hlater : w.now < now' := Nat.lt_of_lt_of_le (pause_bounds ht hstart).1 (of_decide_eq_true hn)
  have hlt : run.left now' < run.left w.now := later_left hleft hstart hlater
  have hspent : 2 * run.left now' + 1 < 2 * run.left w.now := Nat.mul_le_mul_left 2 hlt
  simp only [cost, hp, ha, RequestPhase.rank]
  exact Nat.add_lt_add_left hspent _

/-- An attempt spends an attempt. -/
theorem attempt_cost {run run' : RequestRun α} {w : World} {node : AccountId} {p : PendingRequest AccountId}
    (ht : run.turn w = .attempt node p) (hk : Kept { run with pending := p } run') {now' : Instant}
    (hn : w.now ≤ now') (hr : run'.phase.rank ≤ 3) : run'.cost now' < run.cost w.now := by
  obtain ⟨hlt, ha, -, -⟩ := turn_attempt ht
  have hl : run'.left now' ≤ run.left w.now :=
    Nat.le_trans (Nat.le_of_eq (hk.left now')) (left_anti hn)
  have hattempts : 4 * (run.policy.maxAttempts - (run.pending.attempt + 1)) + 3 <
      4 * (run.policy.maxAttempts - run.pending.attempt) := by omega
  simp only [cost, hk.policy, hk.attempt, ha]
  calc 4 * (run.policy.maxAttempts - (run.pending.attempt + 1)) + 2 * run'.left now' + run'.phase.rank
      ≤ 4 * (run.policy.maxAttempts - (run.pending.attempt + 1)) + 2 * run.left w.now + 3 :=
        Nat.add_le_add (Nat.add_le_add_left (Nat.mul_le_mul_left 2 hl) _) hr
    _ = 4 * (run.policy.maxAttempts - (run.pending.attempt + 1)) + 3 + 2 * run.left w.now := Nat.add_right_comm ..
    _ < 4 * (run.policy.maxAttempts - run.pending.attempt) + 2 * run.left w.now := Nat.add_lt_add_right hattempts _
    _ ≤ 4 * (run.policy.maxAttempts - run.pending.attempt) + 2 * run.left w.now + run.phase.rank :=
        Nat.le_add_right ..

theorem rank_le (phase : RequestPhase α) : phase.rank ≤ 3 := by
  cases phase <;> simp [RequestPhase.rank]

theorem start_rank (request : Request α) (policy : RetryPolicy) (refreshes : Bool) (w : World) :
    (start request policy refreshes w).phase.rank = 0 := by
  unfold start
  dsimp only
  split <;> split <;> rfl

/-- Every step of a run that is not finished by it costs something. -/
theorem step_cost {run : RequestRun α} {w : World} (h : (run.step w).1.result? = none)
    (hstart : run.startedAt ≤ w.now) {now' : Instant} (hn : w.now ≤ now')
    (hw : (run.step w).1.waiting.isOver now' = true) : (run.step w).1.cost now' < run.cost w.now := by
  cases hp : run.phase with
  | deciding =>
    cases ht : run.turn w with
    | wait p span => exact wait_cost hp ht hstart hw
    | attempt node p =>
      have hk : Kept { run with pending := p } (run.step w).1 := by
        cases stepped run w with
        | idle ha _ _ => simp [attempted?, hp, ht] at ha
        | failed _ _ ht' _ _ hi => cases ht.symm.trans ht'; exact hi.kept
        | called _ _ ht' _ _ hc => cases ht.symm.trans ht'; exact hc.kept
      exact attempt_cost ht hk hn (rank_le _)
    | _ =>
      rw [step_deciding hp, ht] at h
      cases h
  | pausing ends =>
    have hs : run.step w = ({ run with phase := .deciding }, w) := by simp only [step, hp]
    rw [hs]
    have hk : Kept run { run with phase := .deciding } := ⟨rfl, rfl, rfl, rfl, rfl, rfl⟩
    refine hk.cost_lt hn ?_
    rw [hp]
    exact Nat.zero_lt_succ 0
  | calling c =>
    have hs : run.step w = run.receive c w := by simp only [step, hp]
    have hi := run.receive_idle c w
    rw [hs]
    refine hi.kept.cost_lt hn ?_
    rw [hp]
    exact Nat.lt_succ_of_le hi.rank
  | benching b =>
    have hs : run.step w = run.proceed b.plan b.error ({ w with net := w.net.endClose b.closing }.report
        (.nodeUnhealthy b.endpoint b.health.backoff.millis b.health.failures)) := by simp only [step, hp]
    rw [hs]
    refine (run.proceed_idle b.plan b.error _).kept.cost_lt hn ?_
    rw [hp]
    exact Nat.lt_succ_of_le (run.proceed_rank b.plan b.error _)
  | finished result =>
    have hs : run.step w = (run, w) := by simp only [step, hp]
    rw [hs] at h
    simp [result?, hp] at h

end RequestRun

namespace Course
open RequestRun

variable {α : Type}

theorem isCalling_of_rank {run : RequestRun α} (h : run.phase.rank ≤ 2) : run.isCalling = false := by
  unfold isCalling
  split
  · rename_i c hc
    rw [hc] at h
    exact absurd h (Nat.not_succ_le_self 2)
  · rfl

/-- A call is under way after a step exactly if the step has made it. -/
theorem called_length (run : RequestRun α) (w : World) :
    (run.called? w).toList.length = if (run.step w).1.isCalling then 1 else 0 := by
  cases stepped run w with
  | idle _ hc hi => rw [hc, isCalling_of_rank hi.rank]; rfl
  | failed _ _ _ _ hc hi => rw [hc, isCalling_of_rank hi.rank]; rfl
  | called node p _ _ hc hcalls =>
    obtain ⟨call, -, hphase⟩ := hcalls.phase
    rw [hc, isCalling, hphase]
    rfl

theorem after_le_before (c : Course α) (n : Nat) : (c.after n).2.now ≤ (c.before n).now :=
  Nat.le_trans (Nat.le_max_left _ _) (Nat.le_max_right _ _)

/-- A step takes no time. -/
theorem step_now (run : RequestRun α) (w : World) : (run.step w).2.now = w.now := by
  cases stepped run w with
  | idle _ _ hi => exact hi.silent.now
  | failed node p _ _ _ hi => exact hi.silent.now
  | called node p _ _ _ hc =>
    obtain ⟨net, channel, payload, hs, he⟩ := hc.sent
    have hnow : (run.step w).2.net.now = net.now := he ▸ net.call_now channel _ payload
    exact hnow.trans hs.now

theorem before_mono (c : Course α) (n : Nat) : (c.before n).now ≤ (c.before (n + 1)).now := by
  refine Nat.le_trans (Nat.le_of_eq ?_) (c.after_le_before (n + 1))
  rw [after_succ, step_now]

theorem start_le (c : Course α) (n : Nat) : c.world.now ≤ (c.before n).now := by
  induction n with
  | zero => exact c.after_le_before 0
  | succ n ih => exact Nat.le_trans ih (c.before_mono n)

theorem phase_of_result {run : RequestRun α} {result : Except ClientError (Executed α)}
    (h : run.result? = some result) : run.phase = .finished result := by
  unfold result? at h
  split at h
  · rename_i hp
    cases h
    exact hp
  · cases h

theorem finished_stays {c : Course α} {n : Nat} {result : Except ClientError (Executed α)}
    (h : (c.run n).result? = some result) : (c.run (n + 1)).result? = some result := by
  have hp := phase_of_result h
  have hs : c.run (n + 1) = c.run n := by
    rw [run_succ]
    simp only [step, hp]
  rw [hs]
  exact h

/-- While a request runs, its steps are paid for. -/
theorem steps_paid (c : Course α) (n : Nat) (h : (c.run n).result? = none) :
    n + (c.run n).cost (c.before n).now ≤ 4 * c.policy.maxAttempts + 2 * c.policy.requestTimeout := by
  induction n with
  | zero =>
    have hrank : (c.run 0).phase.rank = 0 := start_rank c.request c.policy c.refreshes c.world
    have hpolicy : (c.run 0).policy = c.policy := rfl
    rw [Nat.zero_add, cost, hrank, hpolicy, Nat.add_zero]
    exact Nat.add_le_add (Nat.mul_le_mul_left 4 (Nat.sub_le _ _)) (Nat.mul_le_mul_left 2 (Nat.sub_le _ _))
  | succ n ih =>
    have hn : (c.run n).result? = none := by
      cases hr : (c.run n).result? with
      | none => rfl
      | some result => rw [finished_stays hr] at h; cases h
    have hstart : (c.run n).startedAt ≤ (c.before n).now := (c.counted n).startedAt ▸ c.start_le n
    have hcost : (c.run (n + 1)).cost (c.before (n + 1)).now < (c.run n).cost (c.before n).now :=
      step_cost h hstart (c.before_mono n) (await_over h _ _)
    have hpaid := ih hn
    omega

/-- No two calls are under way at once: all that were begun are over, but for the one that is under way. -/
theorem one_at_a_time (c : Course α) (n : Nat) :
    (c.calls n).length = c.endedCalls n + if (c.run n).isCalling then 1 else 0 := by
  induction n with
  | zero =>
    have hr : (c.run 0).isCalling = false :=
      isCalling_of_rank (Nat.le_trans (Nat.le_of_eq (start_rank ..)) (Nat.zero_le 2))
    rw [hr]
    rfl
  | succ n ih => rw [calls_succ, endedCalls_succ, List.length_append, ih, called_length, ← run_succ]

/-- How a request keeps within its budgets, after some steps. -/
structure WithinBudgets (c : Course α) (n : Nat) : Prop where
  attempts : (c.attempts n).length ≤ c.policy.maxAttempts
  visits : ∀ visits, c.policy.maxNodeVisits = some visits → (c.attempts n).dedup.length ≤ visits
  calls : (c.calls n).Sublist (c.attempts n)
  oneAtATime : (c.calls n).length = c.endedCalls n + if (c.run n).isCalling then 1 else 0

/-- What a step may do to services, and to the time left: it reaches a service only to make a single call; and
where it waits for benched candidates, the clock moves on before the next step, with the time of the request as the
limit of the wait. -/
structure Orderly (c : Course α) (n : Nat) : Prop where
  silent : (c.run n).called? (c.before n) = none → (c.before n).net.Silent (c.after (n + 1)).2.net
  single : ∀ node, (c.run n).called? (c.before n) = some node → ∃ net channel payload,
    (c.before n).net.Silent net ∧ (c.after (n + 1)).2.net = (net.call channel c.request.method payload).2
  waits : ∀ p span, (c.run n).phase = .deciding → (c.run n).turn (c.before n) = .wait p span →
    ∃ ends, (c.run (n + 1)).phase = .pausing ends ∧ (c.before n).now < ends ∧
      ends ≤ (c.before (n + 1)).now ∧ ends ≤ Instant.wake (c.world.now + c.policy.requestTimeout)

theorem within_budgets (c : Course α) (n : Nat) : c.WithinBudgets n := by
  have h := c.counted n
  refine ⟨h.attempts, ?_, c.calls_sublist n, c.one_at_a_time n⟩
  intro visits hv
  rw [c.distinct_attempts]
  exact h.visits visits hv

theorem orderly (c : Course α) (n : Nat) : c.Orderly n := by
  refine ⟨?_, ?_, ?_⟩
  · intro hc
    cases stepped (c.run n) (c.before n) with
    | idle _ _ hi => exact hi.silent
    | failed _ _ _ _ _ hi => exact hi.silent
    | called node _ _ _ hc' _ => rw [hc] at hc'; cases hc'
  · intro node hc
    cases stepped (c.run n) (c.before n) with
    | idle _ hc' _ => rw [hc] at hc'; cases hc'
    | failed _ _ _ _ hc' _ => rw [hc] at hc'; cases hc'
    | called node _ _ _ _ hcalls =>
      obtain ⟨net, channel, payload, hs, he⟩ := hcalls.sent
      rw [show RequestRun.request _ = c.request from (c.counted n).request] at he
      exact ⟨net, channel, payload, hs, he⟩
  · intro p span hp ht
    have hstart : (c.run n).startedAt ≤ (c.before n).now := (c.counted n).startedAt ▸ c.start_le n
    obtain ⟨hlt, hle⟩ := pause_bounds ht hstart
    rw [(c.counted n).startedAt, (c.counted n).policy] at hle
    have hs : c.run (n + 1) = _ := step_wait hp ht
    refine ⟨_, by rw [hs]; rfl, hlt, ?_, hle⟩
    have hover : (c.run (n + 1)).waiting.isOver (c.before (n + 1)).now = true :=
      await_over (by rw [hs]; rfl) _ _
    rw [hs] at hover
    exact of_decide_eq_true hover

/-- Every request resolves: after a number of steps that its policy bounds it has one result, which it keeps. All
along it stays within its budgets. -/
theorem resolves (c : Course α) :
    (∃ n result, n ≤ 4 * c.policy.maxAttempts + 2 * c.policy.requestTimeout + 1 ∧
      ∀ m, (c.run m).result? = if m < n then none else some result) ∧
    ∀ n, c.WithinBudgets n ∧ c.Orderly n := by
  refine ⟨?_, fun n => ⟨c.within_budgets n, c.orderly n⟩⟩
  have hsome : ∃ n, (c.run n).result?.isSome := by
    refine ⟨4 * c.policy.maxAttempts + 2 * c.policy.requestTimeout + 1, ?_⟩
    cases hr : (c.run (4 * c.policy.maxAttempts + 2 * c.policy.requestTimeout + 1)).result? with
    | some result => rfl
    | none =>
      have := c.steps_paid _ hr
      omega
  obtain ⟨result, hresult⟩ := Option.isSome_iff_exists.mp (Nat.find_spec hsome)
  have hearlier (m : Nat) (hm : m < Nat.find hsome) : (c.run m).result? = none := by
    simpa using Nat.find_min hsome hm
  refine ⟨Nat.find hsome, result, ?_, ?_⟩
  · cases hn : Nat.find hsome with
    | zero => exact Nat.zero_le _
    | succ n =>
      have := c.steps_paid n (hearlier n (by omega))
      omega
  · intro m
    split
    · rename_i hm
      exact hearlier m hm
    · rename_i hm
      obtain ⟨k, rfl⟩ := Nat.exists_eq_add_of_le (Nat.le_of_not_lt hm)
      clear hm
      induction k with
      | zero => exact hresult
      | succ k ih => exact finished_stays ih

end Course

end LedgerNet
