import LedgerNet.Proofs.Request.Candidates

/-!
How long a node is left alone that has said "not now". A request pauses before it tries the same candidate again, and
when all its candidates have had their turn. Otherwise it passes the turn on without a pause, and where no other
candidate can be tried, the turn comes back to the node at once.
-/
namespace LedgerNet

namespace RequestRun

variable {α : Type} {run : RequestRun α} {w : World} {e : Ending} {status : LedgerStatus} {same : Bool}
  {id : AccountId}

/-- Only who was called can say "not now". -/
theorem calling_of_transient (h : run.ending? w = some e) (ho : e.outcome = .transientRejection status same) :
    ∃ c, run.phase = .calling c ∧ e.node = c.node := by
  unfold ending? at h
  split at h
  · obtain ⟨node, -, hended⟩ := Option.bind_eq_some_iff.mp h
    unfold endedAtOnce? at hended
    split at hended
    · cases hended
      cases ho
    · split at hended
      · cases hended
        cases ho
      · cases hended
  · rename_i c hp
    obtain ⟨outcome, -, heq⟩ := Option.map_eq_some_iff.mp h
    cases heq
    exact ⟨c, hp, rfl⟩
  · cases h

/-- A request that hears "not now" gives up, or goes on with its plan for that. -/
theorem settle_transient (run : RequestRun α) (node : AccountId) (endpoint : Option Endpoint) (status : LedgerStatus)
    (same : Bool) (value : Option α) (w : World) :
    (∃ error, (run.settle node endpoint (.transientRejection status same) value w).1.phase =
      .finished (.error error)) ∨
    ∃ error w', w'.now = w.now ∧ run.settle node endpoint (.transientRejection status same) value w =
      run.proceed (run.pending.plan run.policy (.transientRejection status same)) error w' := by
  have hpenalize : (run.pending.plan run.policy (.transientRejection status same)).penalize = false :=
    (plan_flags rfl).1
  unfold settle PendingRequest.judge
  simp only [PendingRequest.failure?, Outcome.isRetryable, Bool.not_true, Bool.false_eq_true, if_false]
  by_cases hspent : run.policy.maxAttempts ≤ run.pending.attempt
  · rw [if_pos hspent]
    exact .inl ⟨_, rfl⟩
  · rw [if_neg hspent]
    simp only [hpenalize, Bool.false_eq_true, if_false]
    exact .inr ⟨_, w.report _, rfl, rfl⟩

theorem trigger_now (w : World) : w.trigger.2.now = w.now := by
  unfold World.trigger
  split <;> rfl

/-- A retry that is put off is put off for as long as its plan says, while time is left. -/
theorem proceed_pauses (run : RequestRun α) {plan : RetryPlan} (error : ClientError) (w : World)
    (hdelay : plan.delay ≠ 0) : (run.proceed plan error w).1.phase =
      .pausing (Instant.wake (w.now + min plan.delay (run.left w.now))) := by
  have hnow : (if plan.refresh && run.refreshes then w.trigger.2 else w).now = w.now := by
    split
    · exact trigger_now w
    · rfl
  simp only [proceed, hdelay, if_false, hnow]

theorem proceed_at_once (run : RequestRun α) {plan : RetryPlan} (error : ClientError) (w : World)
    (hdelay : plan.delay = 0) : (run.proceed plan error w).1.phase = .deciding := by
  simp only [proceed, hdelay, if_true]

/-- Until all have had their turn, the candidates stay and the turn goes from each to the next. -/
theorem proceed_next (run : RequestRun α) {plan : RetryPlan} (error : ClientError) (w : World)
    (hadvance : plan.advance = true) (hmore : run.pending.cursor + 1 < run.pending.candidates.length) :
    (run.proceed plan error w).1.pending.candidates = run.pending.candidates ∧
      (run.proceed plan error w).1.pending.cursor = run.pending.cursor + 1 := by
  have happly : run.pending.apply plan error =
      (false, { run.pending with lastError := some error, cursor := run.pending.cursor + 1 }) := by
    simp only [PendingRequest.apply, hadvance, Bool.not_true, Bool.false_eq_true, if_false,
      if_neg (Nat.not_le_of_lt hmore)]
  simp only [proceed, happly, Bool.false_and, Bool.false_eq_true, if_false, and_self]

/-- The delay after a "not now": a request that tries the same candidate again, or has come to the end of its
candidates, gives it time. -/
theorem plan_transient (p : PendingRequest AccountId) (policy : RetryPolicy) (status : LedgerStatus)
    (h : same = true ∨ p.candidates.length ≤ p.cursor + 1) :
    (p.plan policy (.transientRejection status same)).delay = policy.backoff p.attempt := by
  cases same with
  | true => rfl
  | false =>
    have hlast : p.candidates.length ≤ p.cursor + 1 := h.resolve_left (by simp)
    simp [PendingRequest.plan, PendingRequest.basePlan, hlast]

theorem plan_passing (p : PendingRequest AccountId) (policy : RetryPolicy) (status : LedgerStatus)
    (h : p.cursor + 1 < p.candidates.length) :
    (p.plan policy (.transientRejection status false)).delay = 0 ∧
      (p.plan policy (.transientRejection status false)).advance = true := by
  simp [PendingRequest.plan, PendingRequest.basePlan, Nat.not_le_of_lt h]

/-- A candidate is attempted only if it is the first that can be tried. -/
theorem attempted_first (hid : id ∈ run.pending.candidates) (h : run.attempted? w = some id) :
    run.pending.firstReady? w.consensus w.now = some id := by
  obtain ⟨-, hfirst, -⟩ := attempted_turned h
  rwa [looking_held hid (attempted_held h).2] at hfirst

end RequestRun

namespace Course
open RequestRun

variable {α : Type} {c : Course α} {k m : Nat} {e : Ending} {status : LedgerStatus} {same : Bool} {id : AccountId}

/-- After a node has said "not now", the next attempt is made at the same node. -/
structure Again (c : Course α) (k m : Nat) (e : Ending) (status : LedgerStatus) (same : Bool) : Prop where
  ended : (c.run k).ending? (c.before k) = some e
  outcome : e.outcome = .transientRejection status same
  later : k < m
  next : c.attempts m = c.attempts (k + 1)
  again : (c.run m).attempted? (c.before m) = some e.node

/-- Between the end of the latest attempt and a later step goes by the time after which the attempt is to be
repeated. -/
def GivesTime (c : Course α) (k m : Nat) : Prop :=
  (c.before k).now + c.policy.backoff (c.attempts (k + 1)).length ≤ (c.before m).now

theorem now_mono (c : Course α) (h : k ≤ m) : (c.before k).now ≤ (c.before m).now := by
  rcases Nat.eq_or_lt_of_le h with rfl | hlt
  · exact Nat.le_refl _
  · exact Nat.le_trans (c.before_le hlt) (c.after_le_before m)

theorem attempts_mono (c : Course α) (h : k ≤ m) : (c.attempts k).length ≤ (c.attempts m).length := by
  induction h with
  | refl => exact Nat.le_refl _
  | step _ ih =>
    rw [attempts_succ, List.length_append]
    exact Nat.le_trans ih (Nat.le_add_right _ _)

/-- A request that is finished attempts nothing any more. -/
theorem unfinished_of_attempted (h : k ≤ m) (ha : (c.run m).attempted? (c.before m) = some id) :
    (c.run k).result? = none := by
  cases hr : (c.run k).result? with
  | none => rfl
  | some result =>
    have hfinished := finished_from (c := c) (by rw [hr]; rfl) h
    rw [result?, (attempted_some ha).1] at hfinished
    cases hfinished

/-- A request that attempts a node later on had time left all along. -/
theorem timely_of_attempted (h : k ≤ m) (ha : (c.run m).attempted? (c.before m) = some id) {n : Nat} :
    (c.run n).elapsed (c.before k).now < (c.run n).policy.requestTimeout := by
  have htimely := (attempted_turned ha).1
  rw [elapsed, (c.counted m).policy, (c.counted m).startedAt] at htimely
  rw [elapsed, (c.counted n).policy, (c.counted n).startedAt]
  exact Nat.lt_of_le_of_lt (Nat.sub_le_sub_right (c.now_mono h) _) htimely

/-- A pause before a later attempt was not cut short. -/
theorem pause_over {span : Span} (hphase : (c.run (k + 1)).phase =
    .pausing (Instant.wake ((c.before k).now + min span ((c.run k).left (c.before k).now)))) (h : k < m)
    (ha : (c.run m).attempted? (c.before m) = some id) : (c.before k).now + span ≤ (c.before m).now := by
  have hover := await_over (unfinished_of_attempted h ha) (c.after (k + 1)).2 (c.meddle (k + 1) (c.after (k + 1)).2)
  rw [waiting, hphase] at hover
  have hends := Nat.le_trans (of_decide_eq_true hover) (c.now_mono h)
  exact waited ((c.counted k).startedAt ▸ c.start_le k) hends (timely_of_attempted (Nat.le_refl m) ha)

/-- What a request does when it hears "not now". -/
theorem Again.proceeds (h : c.Again k m e status same) : ∃ error w', w'.now = (c.before k).now ∧
    c.after (k + 1) = (c.run k).proceed ((c.run k).pending.plan (c.run k).policy (.transientRejection status same))
      error w' := by
  obtain ⟨call, hp, hnode⟩ := calling_of_transient h.ended h.outcome
  have hattempted := step_received (w := c.before k) hp
  rw [h.ended] at hattempted
  obtain ⟨node, endpoint, outcome⟩ := e
  cases h.outcome
  cases hattempted with
  | judged _ _ value w' now _ _ eq =>
    have hsettled := (c.run k).settle_transient call.node endpoint status same value w'
    rw [after_succ]
    rcases hsettled with ⟨error, hdone⟩ | ⟨error, w'', hw, hgo⟩
    · have hunfinished := unfinished_of_attempted h.later h.again
      rw [run_succ, eq, result?, hdone] at hunfinished
      cases hunfinished
    · exact ⟨error, w'', hw.trans now, eq.trans hgo⟩

/-- The number of the attempt that has ended. -/
theorem Again.number (h : c.Again k m e status same) :
    (c.run k).pending.attempt = (c.attempts (k + 1)).length := by
  obtain ⟨call, hp, -⟩ := calling_of_transient h.ended h.outcome
  have hnone : (c.run k).attempted? (c.before k) = none := attempted_none (by simp [hp])
  rw [(c.counted k).attempt, attempts_succ, hnone]
  simp

/-- A node is given time if it is to be tried again, and if it was the last to have its turn. -/
theorem Again.gives_time (h : c.Again k m e status same)
    (hlast : same = true ∨ (c.run k).pending.candidates.length ≤ (c.run k).pending.cursor + 1) : c.GivesTime k m := by
  obtain ⟨error, w', hnow, hafter⟩ := h.proceeds
  have hdelay := plan_transient (c.run k).pending (c.run k).policy status hlast
  rw [(c.counted k).policy, h.number] at hdelay
  by_cases hzero : c.policy.backoff (c.attempts (k + 1)).length = 0
  · rw [GivesTime, hzero]
    exact c.now_mono (Nat.le_of_lt h.later)
  · refine pause_over ?_ h.later h.again
    rw [run, hafter, proceed_pauses _ _ _ (by rw [(c.counted k).policy, hdelay]; exact hzero), hnow,
      (c.counted k).policy, hdelay]

/-- Otherwise it is the next candidate's turn, at once. -/
theorem Again.passes (h : c.Again k m e status false)
    (hmore : (c.run k).pending.cursor + 1 < (c.run k).pending.candidates.length) :
    (c.run (k + 1)).phase = .deciding ∧ (c.run (k + 1)).pending.candidates = (c.run k).pending.candidates ∧
      (c.run (k + 1)).pending.cursor = (c.run k).pending.cursor + 1 := by
  obtain ⟨error, w', -, hafter⟩ := h.proceeds
  obtain ⟨hdelay, hadvance⟩ := plan_passing (c.run k).pending (c.run k).policy status hmore
  rw [run, hafter]
  exact ⟨proceed_at_once _ error w' hdelay, proceed_next _ error w' hadvance hmore⟩

/-- The turn comes back at once if the node is the first that can be tried, and later only if none can. -/
theorem Again.comes_back (h : c.Again k m e status false)
    (hmore : (c.run k).pending.cursor + 1 < (c.run k).pending.candidates.length) :
    (c.run (k + 1)).pending.firstReady? (c.before (k + 1)).consensus (c.before (k + 1)).now =
      if m = k + 1 then some e.node else none := by
  obtain ⟨hp, hcandidates, -⟩ := h.passes hmore
  split
  · rename_i hm
    subst hm
    refine attempted_first ?_ h.again
    obtain ⟨call, hcalling, hnode⟩ := calling_of_transient h.ended h.outcome
    have hturn := c.inTurn k
    rw [InTurn, hcalling] at hturn
    rw [hcandidates, hnode]
    exact List.mem_of_getElem? hturn.2
  · rename_i hm
    have hlater : k + 2 ≤ m := Nat.lt_of_le_of_ne h.later (Ne.symm hm)
    cases hfirst : (c.run (k + 1)).pending.firstReady? (c.before (k + 1)).consensus (c.before (k + 1)).now with
    | none => rfl
    | some first =>
      -- it would have been taken up, so that the next attempt were that, or there were none
      have htimely : (c.run (k + 1)).elapsed (c.before (k + 1)).now < (c.run (k + 1)).policy.requestTimeout :=
        timely_of_attempted h.later h.again
      by_cases hafford : (c.run (k + 1)).pending.Affords (c.run (k + 1)).policy first
      · have hlength := c.attempts_mono hlater
        rw [h.next, attempts_succ c (k + 1), attempts_first hp htimely hfirst hafford, List.length_append] at hlength
        exact absurd hlength (Nat.not_succ_le_self _)
      · have hfinished := (spends_first hp htimely hfirst hafford).2
        have hunfinished := unfinished_of_attempted hlater h.again
        rw [run_succ, hfinished] at hunfinished
        cases hunfinished

/-- Whether a node that has said "not now" is given time before the next attempt, if that is made at it too. -/
structure Patient (c : Course α) (k m : Nat) (e : Ending) (same : Bool) : Prop where
  gives : same = true ∨ (c.run k).pending.candidates.length ≤ (c.run k).pending.cursor + 1 → c.GivesTime k m
  passes : same = false → (c.run k).pending.cursor + 1 < (c.run k).pending.candidates.length →
    (c.run (k + 1)).phase = .deciding ∧ (c.run (k + 1)).pending.candidates = (c.run k).pending.candidates ∧
      (c.run (k + 1)).pending.cursor = (c.run k).pending.cursor + 1
  back : same = false → (c.run k).pending.cursor + 1 < (c.run k).pending.candidates.length →
    (c.run (k + 1)).pending.firstReady? (c.before (k + 1)).consensus (c.before (k + 1)).now =
      if m = k + 1 then some e.node else none
  hurried : c.Prompt → same = false → (c.run k).pending.cursor + 1 < (c.run k).pending.candidates.length →
    m = k + 1 → (c.before m).now = (c.before k).now ∧
      (c.GivesTime k m ↔ c.policy.backoff (c.attempts (k + 1)).length = 0)

/-- A node that has said "not now" is given time before the next attempt goes to it if the request means to try it
again, or if it was the last to have its turn. Otherwise the turn is passed on; it comes back to the node in the same
instant exactly if, from the next candidate round, the node is the first that can be tried. -/
theorem again_patient (h : c.Again k m e status same) : c.Patient k m e same := by
  refine ⟨h.gives_time, ?_, ?_, ?_⟩
  · rintro rfl hmore
    exact h.passes hmore
  · rintro rfl hmore
    exact h.comes_back hmore
  · rintro hprompt rfl hmore rfl
    have hp := (h.passes hmore).1
    have hnow : (c.before (k + 1)).now = (c.before k).now := by
      rw [now_succ hprompt (by simp [result?, hp]), waiting, hp]
      exact Nat.max_eq_left (Nat.zero_le _)
    refine ⟨hnow, ?_⟩
    rw [GivesTime, hnow, add_le_iff_nonpos_right, Nat.le_zero]

/-- A request to two nodes, of which the first gives one answer and the second is benched. -/
def refused (status : LedgerStatus) : Course Unit where
  request := { (unanswered 2).request with status := fun _ => .ok status }
  policy := {}
  refreshes := false
  world := {
    net := { services := [⟨"in-process:m", "m", .answering ⟨[], ⟨.text "", 0⟩, none⟩⟩] }
    consensus := (((Topology.empty { maxNodes := some 2 }).enter 0 (.inProcess "m", ⟨0, 0, 3⟩)).enter 0
      (.inProcess "n", ⟨0, 0, 4⟩)).failedAt (.inProcess "n") 0
    mirror := .empty {} }
  meddle _ w := w

/-- What comes of each of its attempts. -/
def refusal (status : LedgerStatus) (same : Bool) : Ending :=
  ⟨⟨0, 0, 3⟩, some (.inProcess "m"), .transientRejection status same⟩

theorem again_patient_busy : (refused .busy).Again 1 3 (refusal .busy true) .busy true ∧
    ((refused .busy).before 1).now + Span.ofMillis 250 ≤ ((refused .busy).before 3).now := by
  have hagain : (refused .busy).Again 1 3 (refusal .busy true) .busy true :=
    ⟨by cbv, rfl, by decide, by decide_cbv, by decide_cbv⟩
  have hbackoff : (refused .busy).policy.backoff ((refused .busy).attempts 2).length = Span.ofMillis 250 := by
    decide_cbv
  refine ⟨hagain, ?_⟩
  rw [← hbackoff]
  exact (again_patient hagain).gives (.inl rfl)

/-- A node that is not active is asked again at once if no other can be tried. -/
theorem not_always_patient : ¬∀ (c : Course Unit) (k m : Nat) (e : Ending) (status : LedgerStatus) (same : Bool),
    c.Again k m e status same → c.GivesTime k m := by
  intro h
  have hagain : (refused .platformNotActive).Again 1 2 (refusal .platformNotActive false) .platformNotActive false :=
    ⟨by cbv, rfl, by decide, by decide_cbv, by decide_cbv⟩
  have hhurried : ¬ (refused .platformNotActive).GivesTime 1 2 := by
    unfold GivesTime
    decide_cbv
  exact hhurried (h _ _ _ _ _ _ hagain)

end Course

end LedgerNet
