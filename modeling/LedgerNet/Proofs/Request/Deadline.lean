import Mathlib
import LedgerNet.Proofs.Request.Ending
import LedgerNet.Proofs.Request.Resolves

/-!
When a request returns. Each of its waits is cut by the time it has left, but for one: that for the channel of a node
which its own failure has removed. Where that channel is slow to close, the request is late.
-/
namespace LedgerNet

open Text

namespace Instant

/-- A tick of the clock is a whole millisecond. -/
theorem wake_wake (t : Nat) : wake (wake t) = wake t := by
  have h (n : Nat) : wake n = (n + 999999) / 1000000 * 1000000 := rfl
  have hidem : ((t + 999999) / 1000000 * 1000000 + 999999) / 1000000 * 1000000 =
      (t + 999999) / 1000000 * 1000000 := by omega
  rw [h, h]
  exact hidem

end Instant

namespace LocalNet

theorem closeEnd_le (net : LocalNet) (timeout : Span) (id : ChannelId) :
    net.closeEnd timeout id ≤ Instant.wake (net.now + timeout) := by
  unfold closeEnd
  split
  · exact Nat.le_trans (Nat.le_add_right _ _) (Instant.le_wake _)
  · exact Instant.wake_mono (Nat.add_le_add_left (Nat.min_le_right _ _) _)
  · exact Nat.le_refl _

theorem foldl_max_le {ends : List Nat} {first limit : Nat} (hf : first ≤ limit) (he : ∀ t ∈ ends, t ≤ limit) :
    ends.foldl max first ≤ limit := by
  induction ends generalizing first with
  | nil => exact hf
  | cons t rest ih =>
    refine ih (Nat.max_le.mpr ⟨hf, he t List.mem_cons_self⟩) ?_
    intro t' ht
    exact he t' (List.mem_cons_of_mem _ ht)

/-- Channels are waited for no longer than the timeout says. -/
theorem beginClose_ends (net : LocalNet) (ids : List ChannelId) (timeout : Span) :
    (net.beginClose ids timeout).1.ends ≤ Instant.wake (net.now + timeout) := by
  refine foldl_max_le (Nat.le_trans (Nat.le_add_right _ _) (Instant.le_wake _)) ?_
  intro t ht
  obtain ⟨id, -, rfl⟩ := List.mem_map.mp ht
  exact net.closeEnd_le timeout id

end LocalNet

namespace Topology

/-- When the channel of a node that is removed now is no longer waited for. Without a limit on failures no node is
removed. -/
def closedBy (t : Topology AccountId) (now : Instant) : Instant :=
  if t.maxFailures.isNone then now else Instant.wake (now + t.closeTimeout)

theorem le_closedBy (t : Topology AccountId) (now : Instant) : now ≤ t.closedBy now := by
  unfold closedBy
  split
  · exact Nat.le_refl now
  · exact Nat.le_trans (Nat.le_add_right _ _) (Instant.le_wake _)

theorem closedBy_le (t : Topology AccountId) (now : Instant) :
    t.closedBy now ≤ Instant.wake (now + t.closeTimeout) := by
  unfold closedBy
  split
  · exact Nat.le_trans (Nat.le_add_right _ _) (Instant.le_wake _)
  · exact Nat.le_refl _

theorem markFailure_ends {t t' : Topology AccountId} {endpoint : Endpoint} {net net' : LocalNet} {marked : Marked}
    (h : t.markFailure endpoint net = (some marked, t', net')) :
    (net'.beginClose marked.retired t'.closeTimeout).1.ends ≤ t.closedBy net.now := by
  unfold markFailure at h
  split at h
  · cases h
  · dsimp only at h
    split at h
    · rename_i node _ hmax
      have hsome : t.maxFailures.isNone = false := by
        cases hm : t.maxFailures with
        | none => simp [hm] at hmax
        | some max => rfl
      simp only [Prod.mk.injEq, Option.some.injEq] at h
      obtain ⟨rfl, rfl, rfl⟩ := h
      rw [closedBy, hsome]
      exact LocalNet.beginClose_ends _ _ _
    · simp only [Prod.mk.injEq, Option.some.injEq] at h
      obtain ⟨rfl, rfl, rfl⟩ := h
      exact t.le_closedBy net.now

theorem lease_closedBy (t : Topology AccountId) (id : AccountId) (net : LocalNet) (now : Instant) :
    (t.lease id net).2.1.closedBy now = t.closedBy now := by
  unfold lease
  split <;> rfl

end Topology

namespace RequestRun

variable {α : Type}

/-- A wait ends by an instant; or by another, if it is for the channel of a removed node. -/
def WaitsUntil (run : RequestRun α) (limit close : Instant) : Prop :=
  match run.phase with
  | .pausing ends => ends ≤ limit
  | .calling c => c.deadline ≤ limit
  | .benching b => b.closing.ends ≤ close
  | .deciding | .finished _ => True

theorem WaitsUntil.benching {run : RequestRun α} {b : Benching} {limit close : Instant} (hp : run.phase = .benching b)
    (h : b.closing.ends ≤ close) : run.WaitsUntil limit close := by
  simp only [WaitsUntil, hp, h]

/-- The time left, from now on, in whole milliseconds. -/
def cutoff (run : RequestRun α) (now : Instant) : Instant := Instant.wake (now + run.left now)

theorem wake_le_cutoff (run : RequestRun α) (now : Instant) {span : Span} (h : span ≤ run.left now) :
    Instant.wake (now + span) ≤ run.cutoff now :=
  Instant.wake_mono (Nat.add_le_add_left h _)

theorem proceed_waits (run : RequestRun α) (plan : RetryPlan) (error : ClientError) (w : World) (close : Instant) :
    (run.proceed plan error w).1.WaitsUntil (run.cutoff w.now) close := by
  have hnow : (if plan.refresh && run.refreshes then w.trigger.2 else w).now = w.now := by
    split
    · unfold World.trigger
      split <;> rfl
    · rfl
  unfold proceed WaitsUntil
  dsimp only
  rw [hnow]
  by_cases hd : plan.delay = 0
  · simp [hd]
  · simp only [hd, if_false]
    exact run.wake_le_cutoff w.now (Nat.min_le_right _ _)

theorem settle_waits (run : RequestRun α) (node : AccountId) (endpoint : Option Endpoint) (outcome : Outcome)
    (value : Option α) (w : World) : (run.settle node endpoint outcome value w).1.WaitsUntil (run.cutoff w.now)
      (w.consensus.closedBy w.now) := by
  unfold settle
  dsimp only
  split
  · cases value <;> exact trivial
  · exact trivial
  · rename_i plan error _
    generalize hw : w.report (.retryingRequest node.text run.pending.attempt error plan.delay.millis plan.advance) = w'
    have hnow : w'.now = w.now := by rw [← hw]; rfl
    have hconsensus : w'.consensus = w.consensus := by rw [← hw]; rfl
    rw [← hnow, ← hconsensus]
    split
    · exact run.proceed_waits plan error w' _
    · rename_i e _
      split
      · rename_i consensus net heq
        have hm := (silent_markFailure w'.consensus e w'.net).now
        rw [heq] at hm
        rw [← show World.now { w' with consensus, net } = w'.now from hm]
        exact run.proceed_waits plan error _ _
      · rename_i marked consensus net heq
        exact .benching rfl (Topology.markFailure_ends heq)

theorem attempt_waits (run : RequestRun α) (node : AccountId) (w : World) :
    (run.attempt node w).1.WaitsUntil (run.cutoff w.now) (w.consensus.closedBy w.now) := by
  have hn := (silent_lease w.consensus node w.net).now
  have hc := w.consensus.lease_closedBy node w.net w.now
  unfold attempt
  split
  · exact run.settle_waits _ _ _ _ w
  · rename_i lease consensus net heq
    rw [heq] at hn hc
    have hnow : World.now { w with consensus, net } = w.now := hn
    dsimp only
    split
    · rename_i status _
      have hs := run.settle_waits node (some lease.endpoint) status.classify none { w with consensus, net }
      rwa [hnow, show consensus.closedBy w.now = w.consensus.closedBy w.now from hc] at hs
    · split
      · exact trivial
      · rw [← hnow]
        exact run.wake_le_cutoff _ (Nat.min_le_right _ _)

theorem receive_waits (run : RequestRun α) (c : Calling) (w : World) :
    (run.receive c w).1.WaitsUntil (run.cutoff w.now) (w.consensus.closedBy w.now) := by
  unfold receive
  dsimp only
  split
  · exact run.settle_waits _ _ _ _ w
  · split
    · exact run.settle_waits _ _ _ _ w
    · rename_i response _
      have hs (outcome : Outcome) (value : Option α) :=
        run.settle_waits c.node (some c.endpoint) outcome value
          (w.report (.responsePayload c.node.text (Hex.encode (Utf8.encode response))))
      split
      · exact trivial
      · split
        · split
          · exact trivial
          · exact hs _ _
        · exact hs _ _

theorem take_waits (run : RequestRun α) (w : World) (turn : RequestTurn) :
    (run.take w turn).1.WaitsUntil (run.cutoff w.now) (w.consensus.closedBy w.now) := by
  cases turn with
  | expire => exact trivial
  | starve => exact trivial
  | wait p span => exact run.wake_le_cutoff w.now (Nat.min_le_right _ _)
  | spent p error => exact trivial
  | attempt node p => exact attempt_waits { run with pending := p } node w

/-- Whatever a request waits for after a step, the wait is cut by the time that it has left. The wait for a channel
to close is not; it has a limit of its own. -/
theorem step_waits (run : RequestRun α) (w : World) :
    (run.step w).1.WaitsUntil (run.cutoff w.now) (w.consensus.closedBy w.now) := by
  cases hp : run.phase with
  | deciding =>
    rw [step_deciding hp]
    exact run.take_waits w _
  | pausing ends =>
    simp only [step, hp]
    exact trivial
  | calling c =>
    simp only [step, hp]
    exact run.receive_waits c w
  | benching b =>
    simp only [step, hp]
    have hnow : World.now { w with net := w.net.endClose b.closing } = w.now := (w.net.silent_endClose b.closing).now
    rw [← hnow]
    exact run.proceed_waits b.plan b.error _ _
  | finished result =>
    simp only [step, hp, WaitsUntil]

theorem left_late {run : RequestRun α} {now : Instant} (h : run.startedAt + run.policy.requestTimeout ≤ now) :
    run.left now = 0 := by
  refine Nat.sub_eq_zero_of_le (Nat.le_sub_of_add_le ?_)
  rw [Nat.add_comm]
  exact h

/-- While there is time left, it lasts until the deadline. -/
theorem cutoff_le {run : RequestRun α} {now : Instant} (hstart : run.startedAt ≤ now)
    (hnow : now ≤ Instant.wake (run.startedAt + run.policy.requestTimeout)) :
    run.cutoff now ≤ Instant.wake (run.startedAt + run.policy.requestTimeout) := by
  rcases Nat.le_total now (run.startedAt + run.policy.requestTimeout) with hle | hle
  · refine Instant.wake_mono ?_
    have hback : now - run.startedAt + run.startedAt = now := Nat.sub_add_cancel hstart
    simp only [left, elapsed]
    omega
  · -- no time is left, and the clock has not passed the tick in which the deadline falls
    rw [cutoff, left_late hle, Nat.add_zero, ← Instant.wake_wake (run.startedAt + run.policy.requestTimeout)]
    exact Instant.wake_mono hnow

/-- A wait that is not for a channel to close ends by the first of the two instants. -/
theorem WaitsUntil.instant_le {run : RequestRun α} {limit close : Instant} (h : run.WaitsUntil limit close)
    (hb : ∀ b, run.phase ≠ .benching b) : run.waiting.instant?.getD 0 ≤ limit := by
  cases hp : run.phase with
  | deciding => simp [waiting, hp, Waiting.instant?]
  | pausing ends => simpa [WaitsUntil, waiting, hp, Waiting.instant?] using h
  | calling c =>
    have hdeadline : c.deadline ≤ limit := by simpa [WaitsUntil, hp] using h
    cases harrives : c.ticket.arrives with
    | none => simpa [waiting, hp, harrives, Waiting.sooner, Waiting.instant?] using hdeadline
    | some t =>
      simp only [waiting, hp, harrives, Waiting.sooner, Waiting.instant?, Option.getD_some]
      exact Nat.le_trans (Nat.min_le_right _ _) hdeadline
  | benching b => exact absurd hp (hb b)
  | finished result => simp [waiting, hp, Waiting.instant?]

/-- With no time left, no wait but that for a channel to close goes beyond the present tick. -/
theorem cutoff_late {run : RequestRun α} {now : Instant}
    (h : run.startedAt + run.policy.requestTimeout ≤ now) : run.cutoff now = Instant.wake now := by
  rw [cutoff, left_late h, Nat.add_zero]

end RequestRun

namespace Course
open RequestRun

variable {α : Type}

/-- Each step of a request is taken as soon as its wait is over. -/
def Prompt (c : Course α) : Prop :=
  ∀ n, (c.run n).result? = none →
    (c.before n).now = max (c.after n).2.now ((c.run n).waiting.instant?.getD 0)

/-- A request has its result by an instant. -/
def ReturnsBy (c : Course α) (t : Instant) : Prop :=
  ∃ n, (c.run n).result?.isSome = true ∧ (c.after n).2.now ≤ t

/-- The tick of the clock in which the time of a request runs out. -/
def limit (c : Course α) : Instant := Instant.wake (c.world.now + c.policy.requestTimeout)

/-- A request never waits beyond its time for the channel of a removed node to close. -/
def ClosesInTime (c : Course α) : Prop := ∀ n b, (c.run n).phase = .benching b → b.closing.ends ≤ c.limit

theorem before_le (c : Course α) {n m : Nat} (h : n < m) : (c.before n).now ≤ (c.after m).2.now := by
  obtain ⟨k, rfl⟩ := Nat.exists_eq_add_of_lt h
  induction k with
  | zero => exact Nat.le_of_eq (step_now (c.run n) (c.before n)).symm
  | succ k ih =>
    refine Nat.le_trans (ih (by omega)) ?_
    have hstep : (c.after (n + (k + 1) + 1)).2.now = (c.before (n + k + 1)).now := step_now _ _
    rw [hstep]
    exact c.after_le_before (n + k + 1)

theorem finished_from {c : Course α} {n m : Nat} (h : (c.run n).result?.isSome = true) (hm : n ≤ m) :
    (c.run m).result?.isSome = true := by
  induction hm with
  | refl => exact h
  | step _ ih =>
    obtain ⟨result, hr⟩ := Option.isSome_iff_exists.mp ih
    rw [finished_stays hr]
    rfl

theorem unfinished_of_benching {c : Course α} {n : Nat} {b : Benching} (h : (c.run n).phase = .benching b) :
    (c.run n).result? = none := by
  simp only [result?, h]

/-- A request that is in time has not waited beyond its time. -/
theorem ReturnsBy.closesInTime {c : Course α} (h : c.ReturnsBy c.limit) : c.ClosesInTime := by
  intro n b hb
  obtain ⟨m, hm, ht⟩ := h
  have hlt : n < m := by
    refine Nat.lt_of_not_le ?_
    intro hle
    have hfinished := finished_from hm hle
    rw [unfinished_of_benching hb] at hfinished
    cases hfinished
  have hover := await_over (unfinished_of_benching hb) (c.after n).2 (c.meddle n (c.after n).2)
  rw [waiting, hb] at hover
  have hends : b.closing.ends ≤ (c.before n).now := of_decide_eq_true hover
  exact Nat.le_trans hends (Nat.le_trans (c.before_le hlt) ht)

theorem now_start {c : Course α} (hp : c.Prompt) (h : (c.run 0).result? = none) :
    (c.before 0).now = c.world.now := by
  have hrank : (c.run 0).phase.rank = 0 := start_rank c.request c.policy c.refreshes c.world
  have hw : (c.run 0).waiting.instant? = none := by
    cases hphase : (c.run 0).phase with
    | deciding => simp only [waiting, hphase, Waiting.instant?]
    | finished result => simp [result?, hphase] at h
    | _ => simp [hphase, RequestPhase.rank] at hrank
  rw [hp 0 h, hw]
  exact Nat.max_eq_left (Nat.zero_le _)

theorem now_succ {c : Course α} (hp : c.Prompt) {n : Nat} (h : (c.run (n + 1)).result? = none) :
    (c.before (n + 1)).now = max (c.before n).now ((c.run (n + 1)).waiting.instant?.getD 0) := by
  rw [hp (n + 1) h, after_succ, step_now]

theorem unfinished_pred {c : Course α} {n : Nat} (h : (c.run (n + 1)).result? = none) : (c.run n).result? = none := by
  cases hr : (c.run n).result? with
  | none => rfl
  | some result =>
    rw [finished_stays hr] at h
    cases h

theorem cutoff_le_limit (c : Course α) {n : Nat} (h : (c.before n).now ≤ c.limit) :
    (c.run n).cutoff (c.before n).now ≤ c.limit := by
  have hc := c.counted n
  have hcut : (c.before n).now ≤ Instant.wake ((c.run n).startedAt + (c.run n).policy.requestTimeout) := by
    rw [hc.startedAt, hc.policy]
    exact h
  have hle := cutoff_le (hc.startedAt ▸ c.start_le n) hcut
  rwa [hc.startedAt, hc.policy] at hle

/-- A request that has no time left gives up when it decides, and waits no more. -/
theorem late_step {c : Course α} {n : Nat} (hlate : c.limit ≤ (c.before n).now)
    (hcalling : (c.run n).isCalling = false) (h : (c.run (n + 1)).result? = none) :
    (c.run (n + 1)).phase.rank ≤ 1 := by
  have hc := c.counted n
  have hdeadline : c.world.now + c.policy.requestTimeout ≤ (c.before n).now := Nat.le_trans (Instant.le_wake _) hlate
  rw [run_succ] at h ⊢
  cases hphase : (c.run n).phase with
  | deciding =>
    have hturn : (c.run n).turn (c.before n) = .expire := by
      refine if_pos ?_
      rw [elapsed, hc.startedAt, hc.policy]
      exact Nat.le_sub_of_add_le (by rwa [Nat.add_comm])
    rw [step_deciding hphase, hturn] at h
    cases h
  | pausing ends =>
    simp only [step, hphase, RequestPhase.rank]
    exact Nat.zero_le 1
  | calling call => simp [isCalling, hphase] at hcalling
  | benching b =>
    simp only [step, hphase]
    exact proceed_rank _ _ _ _
  | finished result => simp [step, hphase, result?] at h

/-- While a request is in time, its waits keep it so. Once the wait for a channel to close has made it late, it calls
no node any more. -/
theorem on_time {c : Course α} (hp : c.Prompt) {t : Instant} (htick : Instant.wake t = t) (hlimit : c.limit ≤ t)
    (hclose : ∀ n b, (c.run n).phase = .benching b → (c.after n).2.now ≤ c.limit → b.closing.ends ≤ t) (n : Nat)
    (h : (c.run n).result? = none) :
    (c.before n).now ≤ c.limit ∨
      c.limit ≤ (c.before n).now ∧ (c.before n).now ≤ t ∧ (c.run n).isCalling = false := by
  induction n with
  | zero =>
    left
    rw [now_start hp h]
    exact Nat.le_trans (Nat.le_add_right _ _) (Instant.le_wake _)
  | succ n ih =>
    have hwaits : (c.run (n + 1)).WaitsUntil _ _ := step_waits (c.run n) (c.before n)
    have hafter : (c.after (n + 1)).2.now = (c.before n).now := step_now (c.run n) (c.before n)
    rcases ih (unfinished_pred h) with hin | ⟨hlate, hle, hcalling⟩
    · by_cases hb : ∃ b, (c.run (n + 1)).phase = .benching b
      · obtain ⟨b, hb⟩ := hb
        have hends : b.closing.ends ≤ t := hclose (n + 1) b hb (hafter ▸ hin)
        have hnow : (c.before (n + 1)).now = max (c.before n).now b.closing.ends := by
          rw [now_succ hp h, waiting, hb]
          rfl
        rcases Nat.le_total (c.before (n + 1)).now c.limit with hle | hge
        · exact .inl hle
        · refine .inr ⟨hge, ?_, by simp only [isCalling, hb]⟩
          rw [hnow]
          exact Nat.max_le.mpr ⟨Nat.le_trans hin hlimit, hends⟩
      · left
        rw [now_succ hp h]
        have hinstant := hwaits.instant_le (fun b hphase => hb ⟨b, hphase⟩)
        exact Nat.max_le.mpr ⟨hin, Nat.le_trans hinstant (c.cutoff_le_limit hin)⟩
    · right
      have hrank := late_step hlate hcalling h
      have hb (b : Benching) : (c.run (n + 1)).phase ≠ .benching b := by
        intro hphase
        rw [hphase] at hrank
        exact absurd hrank (Nat.not_succ_le_self 1)
      have hc := c.counted n
      have hdeadline : (c.run n).startedAt + (c.run n).policy.requestTimeout ≤ (c.before n).now := by
        rw [hc.startedAt, hc.policy]
        exact Nat.le_trans (Instant.le_wake _) hlate
      have hinstant := hwaits.instant_le hb
      rw [cutoff_late hdeadline] at hinstant
      have hwake : Instant.wake (c.before n).now ≤ t := htick ▸ Instant.wake_mono hle
      rw [now_succ hp h]
      refine ⟨Nat.le_trans hlate (Nat.le_max_left _ _), Nat.max_le.mpr ⟨hle, Nat.le_trans hinstant hwake⟩, ?_⟩
      exact isCalling_of_rank (Nat.le_succ_of_le hrank)

theorem finishes (c : Course α) : ∃ n, (c.run n).result?.isSome = true := by
  refine ⟨4 * c.policy.maxAttempts + 2 * c.policy.requestTimeout + 1, ?_⟩
  cases hr : (c.run (4 * c.policy.maxAttempts + 2 * c.policy.requestTimeout + 1)).result? with
  | some result => rfl
  | none =>
    have hpaid := c.steps_paid _ hr
    omega

/-- A request returns by the tick in which its time runs out, or by the one in which the last closing ends that has
begun before. -/
theorem returns_by {c : Course α} (hp : c.Prompt) {t : Instant} (htick : Instant.wake t = t) (hlimit : c.limit ≤ t)
    (hclose : ∀ n b, (c.run n).phase = .benching b → (c.after n).2.now ≤ c.limit → b.closing.ends ≤ t) :
    c.ReturnsBy t := by
  refine ⟨Nat.find c.finishes, Nat.find_spec c.finishes, ?_⟩
  cases hn : Nat.find c.finishes with
  | zero => exact Nat.le_trans (Nat.le_trans (Nat.le_add_right _ _) (Instant.le_wake _)) hlimit
  | succ n =>
    have hearlier : (c.run n).result? = none := by
      have hmin := Nat.find_min c.finishes (m := n) (by omega)
      simpa using hmin
    rw [after_succ, step_now]
    rcases on_time hp htick hlimit hclose n hearlier with hin | ⟨-, hle, -⟩
    · exact Nat.le_trans hin hlimit
    · exact hle

/-- A channel is waited for from the step on that has removed its node. -/
theorem benched_by (c : Course α) {n : Nat} {b : Benching} (hb : (c.run n).phase = .benching b) :
    ∃ m, n = m + 1 ∧ b.closing.ends ≤ (c.before m).consensus.closedBy (c.after n).2.now := by
  cases n with
  | zero =>
    have hrank : (c.run 0).phase.rank = 0 := start_rank c.request c.policy c.refreshes c.world
    rw [hb] at hrank
    cases hrank
  | succ m =>
    have hwaits : (c.run (m + 1)).WaitsUntil _ _ := step_waits (c.run m) (c.before m)
    have hafter : (c.after (m + 1)).2.now = (c.before m).now := step_now (c.run m) (c.before m)
    rw [hafter]
    exact ⟨m, rfl, by simpa only [WaitsUntil, hb] using hwaits⟩

theorem prompt_of_undisturbed {c : Course α} (h : ∀ n w, c.meddle n w = w) : c.Prompt := by
  intro n _
  have hnow : (c.before n).now =
      max (c.meddle n (c.after n).2).now (max (c.after n).2.now ((c.run n).waiting.instant?.getD 0)) := rfl
  rw [hnow, h n]
  exact Nat.max_eq_right (Nat.le_max_left _ _)

/-- A request with a second of time and one node, which does not listen and is removed for it. The channel to the node
takes so long to close; or it never finishes, and is given half a minute. -/
def removing (closes : Option Span) : Course Unit :=
  { unanswered 2 with
    policy := { maxAttempts := 2, requestTimeout := Span.ofSeconds 1 }
    world := { (unanswered 2).world with
      net := {
        slowToClose := if closes.isNone then [.inProcess "n"] else []
        closeTimes := closes.toList.map fun span => (.inProcess "n", span) }
      consensus := (Topology.empty { maxFailures := some 1 }).enter 0 (.inProcess "n", ⟨0, 0, 3⟩) } }

/-- A request that is resumed as soon as its waits are over returns within its time exactly if it never waits beyond
that for the channel of a node which it has removed. So it does where no node is ever removed; and it is late by no
more than channels are given to close. -/
theorem returns_in_time_iff (c : Course α) (hp : c.Prompt) :
    (c.ReturnsBy c.limit ↔ c.ClosesInTime) ∧
    ((∀ n, (c.before n).consensus.maxFailures = none) → c.ReturnsBy c.limit) ∧
    ∀ timeout, (∀ n, (c.before n).consensus.closeTimeout ≤ timeout) →
      c.ReturnsBy (Instant.wake (c.limit + timeout)) := by
  refine ⟨⟨ReturnsBy.closesInTime, ?_⟩, ?_, ?_⟩
  · intro hcloses
    refine returns_by hp (Instant.wake_wake _) (Nat.le_refl _) ?_
    intro n b hb _
    exact hcloses n b hb
  · intro hkept
    refine returns_by hp (Instant.wake_wake _) (Nat.le_refl _) ?_
    intro n b hb hin
    obtain ⟨m, rfl, hends⟩ := c.benched_by hb
    rw [Topology.closedBy, hkept m] at hends
    exact Nat.le_trans hends hin
  · intro timeout htimeout
    refine returns_by hp (Instant.wake_wake _) (Nat.le_trans (Nat.le_add_right _ _) (Instant.le_wake _)) ?_
    intro n b hb hin
    obtain ⟨m, rfl, hends⟩ := c.benched_by hb
    refine Nat.le_trans hends (Nat.le_trans (Topology.closedBy_le _ _) (Instant.wake_mono ?_))
    exact Nat.add_le_add hin (htimeout m)

/-- A node whose channel closes in less than the time left does not hold its request up. -/
theorem in_time_removing : (removing (some (Span.ofMillis 400))).Prompt ∧
    (removing (some (Span.ofMillis 400))).ReturnsBy (Span.ofSeconds 1) := by
  have hp : (removing (some (Span.ofMillis 400))).Prompt := prompt_of_undisturbed fun _ _ => rfl
  refine ⟨hp, (returns_in_time_iff _ hp).1.mpr ?_⟩
  intro n b hb
  have hn : n < 5 := by
    refine Nat.lt_of_not_le fun hle => ?_
    have hfinished : ((removing (some (Span.ofMillis 400))).run 5).result?.isSome = true := by cbv
    have hlater := finished_from hfinished hle
    rw [unfinished_of_benching hb] at hlater
    cases hlater
  by_cases htwo : n = 2
  · subst htwo
    have hends : ∃ b, ((removing (some (Span.ofMillis 400))).run 2).phase = .benching b ∧
        b.closing.ends = Span.ofMillis 400 := ⟨_, by cbv, by cbv⟩
    obtain ⟨b', hb', hends⟩ := hends
    cases hb.symm.trans hb'
    rw [hends]
    decide
  · have hranks : ∀ m < 5, m ≠ 2 → ((removing (some (Span.ofMillis 400))).run m).phase.rank ≠ 2 := by decide_cbv
    refine absurd ?_ (hranks n hn htwo)
    rw [hb]
    rfl

/-- A channel that never finishes closing holds a request up for half a minute, whatever its time is. -/
theorem not_always_in_time : ¬∀ c : Course Unit, c.Prompt → c.ReturnsBy c.limit := by
  intro h
  have hcloses := (h (removing none) (prompt_of_undisturbed fun _ _ => rfl)).closesInTime
  have hends : ∃ b, ((removing none).run 2).phase = .benching b ∧ b.closing.ends = Span.ofSeconds 30 :=
    ⟨_, by cbv, by cbv⟩
  obtain ⟨b, hb, hends⟩ := hends
  have hle : Span.ofSeconds 30 ≤ Span.ofSeconds 1 := hends ▸ hcloses 2 b hb
  exact absurd hle (by decide)

end Course

end LedgerNet
