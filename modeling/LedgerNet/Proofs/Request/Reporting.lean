import Mathlib
import LedgerNet.Proofs.Request.Ending

/-!
What a request reports is what happened to it. It remembers the error of its latest attempt and no more; the counts,
the names and the errors that it reports in the end are those of the attempts that it made.
-/
namespace LedgerNet

/-- Whether an error tells of the attempts of a request. -/
def ClientError.tellsOfAttempts : ClientError → Bool
  | .exhaustedRetries .. | .rejected .. | .transport .. | .transientRejection .. | .staleNodeIdentity .. => true
  | _ => false

/-- No hook of a request tells of its attempts. -/
def Request.Discreet {α : Type} (r : Request α) : Prop := ∀ error, r.Raises error → error.tellsOfAttempts = false

/-- The error of an attempt: it names the node and the number of the attempt. -/
def Ending.error? (e : Ending) (number : Nat) : Option ClientError :=
  match e.outcome with
  | .success => none
  | .transportFailure status _ => some (.transport e.node.text number status)
  | .transientRejection status _ => some (.transientRejection status e.node.text number)
  | .staleNodeIdentity status => some (.staleNodeIdentity status e.node.text number)
  | .terminalRejection status => some (.rejected status e.node.text number)

namespace RequestRun

variable {α : Type}

theorem failure_eq {p : PendingRequest AccountId} {e : Ending} (h : p.current? = some e.node) :
    p.failure? e.outcome = e.error? p.attempt := by
  have htext : p.currentText = e.node.text := by simp only [PendingRequest.currentText, h]; rfl
  obtain ⟨node, endpoint, outcome⟩ := e
  cases outcome <;> simp only [PendingRequest.failure?, Ending.error?, htext]

/-- A wait for a candidate leaves the error of the latest attempt alone. -/
theorem wait_lastError {run : RequestRun α} {w : World} {p : PendingRequest AccountId} {span : Span}
    (h : run.turn w = .wait p span) : p.lastError = run.pending.lastError := by
  obtain ⟨-, place, p', hf, rfl⟩ := turn_waits h
  exact (focus_counts p' place).2.2.trans (focus_eq hf).2.2.2

theorem begin_error {p : PendingRequest AccountId} {maxAttempts : Nat} {maxVisits : Option Nat} {error : ClientError}
    (h : p.begin? maxAttempts maxVisits = .error error) : error = .emptyTopology ∨
      (error = p.exhausted p.lastError ∧
        (maxAttempts ≤ p.attempt ∨ ∃ visits, maxVisits = some visits ∧ visits ≤ p.visited.length)) := by
  unfold PendingRequest.begin? at h
  split at h
  · cases h
    exact .inl rfl
  · dsimp only at h
    split at h
    · rename_i hspent
      cases h
      refine .inr ⟨rfl, hspent.imp id fun hvisits => ?_⟩
      rw [Bool.and_eq_true] at hvisits
      cases maxVisits with
      | none => cases hvisits.2
      | some visits => exact ⟨visits, rfl, of_decide_eq_true hvisits.2⟩
    · cases h

/-- A request that has spent a budget reports its counts, and the error of its latest attempt. -/
theorem spent_error {run : RequestRun α} {w : World} {p : PendingRequest AccountId} {error : ClientError}
    (h : run.turn w = .spent p error) : error = .emptyTopology ∨
      (error = .exhaustedRetries run.pending.attempt run.pending.visited.length run.pending.lastError ∧
        (run.policy.maxAttempts ≤ run.pending.attempt ∨
          ∃ visits, run.policy.maxNodeVisits = some visits ∧ visits ≤ run.pending.visited.length)) := by
  obtain ⟨ha, hv⟩ := turn_spent h
  obtain ⟨place, p', hf, rfl, hbegin⟩ := turn_spends h
  have hlast := (focus_counts p' place).2.2.trans (focus_eq hf).2.2.2
  have herror := begin_error hbegin
  rw [PendingRequest.exhausted, ha, hv, hlast] at herror
  exact herror

end RequestRun

namespace Course
open RequestRun

variable {α : Type} {c : Course α} {n : Nat} {e : Ending}

/-- All attempts made so far have ended, the last of them so, and all before it were worth another. -/
structure LastEnded (c : Course α) (n : Nat) (e : Ending) : Prop where
  attempts : c.attempts n = (c.endings n).map (·.node)
  endings : ∃ earlier, c.endings n = earlier ++ [e] ∧ ∀ e' ∈ earlier, e'.outcome.isRetryable = true

/-- What a result tells of the attempts of a request is what happened. -/
inductive Reported (c : Course α) (n : Nat) : Except ClientError (Executed α) → Prop
  | success (e : Ending) (last : c.LastEnded n e) (because : e.outcome = .success) (value : α) (elapsed : Span) :
      Reported c n (.ok ⟨value, e.node, (c.attempts n).length, elapsed⟩)
  | exhausted (e : Ending) (last : c.LastEnded n e) (retryable : e.outcome.isRetryable = true) (error : ClientError)
      (because : e.error? (c.attempts n).length = some error)
      (spent : (c.attempts n).length = c.policy.maxAttempts ∨
        c.policy.maxNodeVisits = some (c.attempts n).dedup.length) :
      Reported c n (.error (.exhaustedRetries (c.attempts n).length (c.attempts n).dedup.length (some error)))
  | rejected (e : Ending) (last : c.LastEnded n e) (status : LedgerStatus)
      (because : e.outcome = .terminalRejection status) :
      Reported c n (.error (.rejected status e.node.text (c.attempts n).length))
  | transport (e : Ending) (last : c.LastEnded n e) (status : Status)
      (because : e.outcome = .transportFailure status false) :
      Reported c n (.error (.transport e.node.text (c.attempts n).length status))
  | other (error : ClientError) (silent : error.tellsOfAttempts = false) : Reported c n (.error error)

/-- The error of an attempt that is not worth another is the result. -/
theorem reported_final (h : c.LastEnded n e) (hfinal : e.outcome.isRetryable = false) {error : ClientError}
    (herror : e.error? (c.attempts n).length = some error) : c.Reported n (.error error) := by
  unfold Ending.error? at herror
  cases ho : e.outcome with
  | success => rw [ho] at herror; cases herror
  | transportFailure status retryable =>
    rw [ho] at herror hfinal
    cases herror
    obtain rfl : retryable = false := hfinal
    exact .transport e h status ho
  | transientRejection status retrySameNode => rw [ho] at hfinal; cases hfinal
  | staleNodeIdentity status => rw [ho] at hfinal; cases hfinal
  | terminalRejection status =>
    rw [ho] at herror
    cases herror
    exact .rejected e h status ho

/-- All attempts that have ended were worth another. -/
def Retrying (c : Course α) (n : Nat) : Prop := ∀ e ∈ c.endings n, e.outcome.isRetryable = true

/-- The error of the attempt that ended last. -/
def lastError? (c : Course α) (n : Nat) : Option ClientError :=
  (c.endings n).getLast?.bind fun e => e.error? (c.attempts n).length

/-- What a request knows of its attempts in each phase. -/
def Told (c : Course α) (n : Nat) : Prop :=
  match (c.run n).phase with
  | .finished result => c.Reported n result
  | .calling _ => c.Retrying n
  | .benching b => c.Retrying n ∧ some b.error = c.lastError? n
  | .deciding | .pausing _ => c.Retrying n ∧ (c.run n).pending.lastError = c.lastError? n

theorem error_isSome (h : e.outcome.isRetryable = true) (number : Nat) : (e.error? number).isSome = true := by
  unfold Ending.error?
  cases ho : e.outcome with
  | success => rw [ho] at h; cases h
  | _ => rfl

/-- The attempt that has just ended, after none but such as were worth another. -/
theorem Retrying.lastEnded (h : c.Retrying n) (he : (c.run n).ending? (c.before n) = some e) :
    c.LastEnded (n + 1) e ∧ c.lastError? (n + 1) = e.error? (c.attempts (n + 1)).length := by
  have hends : c.endings (n + 1) = c.endings n ++ [e] := by
    rw [endings_succ, he]
    rfl
  refine ⟨⟨attempts_ended he, c.endings n, hends, h⟩, ?_⟩
  rw [lastError?, hends, List.getLast?_concat]
  rfl

theorem Retrying.succ (h : c.Retrying n) (he : (c.run n).ending? (c.before n) = some e)
    (hretryable : e.outcome.isRetryable = true) : c.Retrying (n + 1) := by
  intro e' he'
  rw [endings_succ, he] at he'
  rcases List.mem_append.mp he' with hearlier | hlast
  · exact h e' hearlier
  · obtain rfl : e' = e := List.mem_singleton.mp hlast
    exact hretryable

theorem told_finished {result : Except ClientError (Executed α)} (h : c.Reported n result)
    (hp : (c.run n).phase = .finished result) : c.Told n := by
  rw [Told, hp]
  exact h

/-- A request that goes on or waits, and remembers the error of its latest attempt. -/
theorem told_on (hr : c.Retrying n) (hlast : (c.run n).pending.lastError = c.lastError? n)
    (hp : (c.run n).phase = .deciding ∨ ∃ ends, (c.run n).phase = .pausing ends) : c.Told n := by
  rcases hp with hp | ⟨ends, hp⟩
  · rw [Told, hp]
    exact ⟨hr, hlast⟩
  · rw [Told, hp]
    exact ⟨hr, hlast⟩

/-- What follows for the next step when the outcome of an attempt has been judged. -/
theorem told_judged (h : c.Retrying n) (he : (c.run n).ending? (c.before n) = some e) : c.Told (n + 1) := by
  obtain ⟨base, w, hjudged⟩ := judged he
  obtain ⟨hlast, herror⟩ := h.lastEnded he
  have hfailure : base.pending.failure? e.outcome = e.error? (c.attempts (n + 1)).length :=
    (failure_eq hjudged.current).trans (congrArg _ hjudged.number)
  cases hjudged.goesOn with
  | succeeded success _ result =>
    rcases result with hr | ⟨value, hr⟩
    · exact told_finished (.other (.codec "successful response produced no value") rfl) (by rw [run, hr]; rfl)
    · refine told_finished (.success e hlast success value (base.elapsed w.now)) ?_
      rw [run, hr, hjudged.number]
      rfl
  | rejected error because final eq =>
    exact told_finished (reported_final hlast final (hfailure.symm.trans because)) (by rw [run, eq]; rfl)
  | exhausted error because retryable spent eq =>
    rw [hjudged.policy, hjudged.number] at spent
    have hall := Nat.le_antisymm (c.counted (n + 1)).attempts spent
    refine told_finished (.exhausted e hlast retryable error (hfailure.symm.trans because) (.inl hall)) ?_
    rw [run, eq, ← hjudged.number, ← hjudged.visited]
    rfl
  | retried error w' because retryable _ eq =>
    have hproceeds := base.proceed_proceeds (base.pending.plan base.policy e.outcome) error w'
    rw [← eq] at hproceeds
    have hknown : (c.run (n + 1)).pending.lastError = c.lastError? (n + 1) := by
      rw [herror, ← hfailure, because]
      exact hproceeds.lastError
    exact told_on (h.succ he retryable) hknown hproceeds.phase
  | benched b because retryable _ _ eq =>
    have hp : (c.run (n + 1)).phase = .benching b := by rw [run, eq]
    rw [Told, hp]
    refine ⟨h.succ he retryable, ?_⟩
    rw [herror, ← hfailure, because]

/-- A request that has spent a budget before its next attempt. -/
theorem reported_spent (hattempts : 1 ≤ c.policy.maxAttempts) (hvisits : c.policy.maxNodeVisits ≠ some 0)
    (h : c.Retrying n) (hended : c.attempts n = (c.endings n).map (·.node))
    (hspent : c.policy.maxAttempts ≤ (c.attempts n).length ∨
      ∃ visits, c.policy.maxNodeVisits = some visits ∧ visits ≤ (c.attempts n).dedup.length) :
    c.Reported n (.error (.exhaustedRetries (c.attempts n).length (c.attempts n).dedup.length (c.lastError? n))) := by
  have hwithin := c.counted n
  have hsome : c.endings n ≠ [] := by
    intro hnil
    rw [hnil, List.map_nil] at hended
    rw [hended] at hspent
    rcases hspent with hspent | ⟨visits, hmax, hspent⟩
    · exact absurd hspent (Nat.not_le_of_lt hattempts)
    · obtain rfl : visits = 0 := Nat.le_zero.mp hspent
      exact hvisits hmax
  obtain ⟨earlier, e, hends⟩ := (List.eq_nil_or_concat' (c.endings n)).resolve_left hsome
  have hretryable : e.outcome.isRetryable = true := h e (by rw [hends]; simp)
  obtain ⟨error, herror⟩ := Option.isSome_iff_exists.mp (error_isSome hretryable (c.attempts n).length)
  have hlast : c.lastError? n = some error := by
    rw [lastError?, hends, List.getLast?_concat]
    exact herror
  rw [hlast]
  refine .exhausted e ⟨hended, earlier, hends, fun e' he' => h e' ?_⟩ hretryable error herror ?_
  · rw [hends]
    exact List.mem_append_left _ he'
  · rcases hspent with hspent | ⟨visits, hmax, hspent⟩
    · exact .inl (Nat.le_antisymm hwithin.attempts hspent)
    · refine .inr (hmax.trans (congrArg some (Nat.le_antisymm hspent ?_)))
      rw [c.distinct_attempts]
      exact hwithin.visits visits hmax

theorem LastEnded.of_same {m : Nat} (h : c.LastEnded n e) (hl : c.attempts m = c.attempts n)
    (hends : c.endings m = c.endings n) : c.LastEnded m e :=
  ⟨by rw [hl, hends]; exact h.attempts, by rw [hends]; exact h.endings⟩

theorem Reported.of_same {m : Nat} {result : Except ClientError (Executed α)} (h : c.Reported n result)
    (hl : c.attempts m = c.attempts n) (hends : c.endings m = c.endings n) : c.Reported m result := by
  cases h with
  | success e last because value elapsed =>
    rw [← hl]
    exact .success e (last.of_same hl hends) because value elapsed
  | exhausted e last retryable error because spent =>
    rw [← hl] at because spent ⊢
    exact .exhausted e (last.of_same hl hends) retryable error because spent
  | rejected e last status because =>
    rw [← hl]
    exact .rejected e (last.of_same hl hends) status because
  | transport e last status because =>
    rw [← hl]
    exact .transport e (last.of_same hl hends) status because
  | other error silent => exact .other error silent

/-- A step that has nothing to do with an attempt, from a phase in which none is under way. -/
theorem told_quiet (hattempts : 1 ≤ c.policy.maxAttempts) (hvisits : c.policy.maxNodeVisits ≠ some 0)
    (h : c.Told n) (hl : c.attempts (n + 1) = c.attempts n) (hends : c.endings (n + 1) = c.endings n)
    (ha : (c.run n).attempted? (c.before n) = none) (hfree : ∀ call, (c.run n).phase ≠ .calling call) :
    c.Told (n + 1) := by
  have hretrying (hr : c.Retrying n) : c.Retrying (n + 1) := by
    unfold Retrying
    rw [hends]
    exact hr
  have hlast : c.lastError? (n + 1) = c.lastError? n := by rw [lastError?, hends, hl, lastError?]
  cases hp : (c.run n).phase with
  | calling call => exact absurd hp (hfree call)
  | finished result =>
    rw [Told, hp] at h
    exact told_finished (h.of_same hl hends) (by rw [run_finished hp, hp])
  | pausing ends =>
    rw [Told, hp] at h
    have hrun : c.run (n + 1) = { c.run n with phase := .deciding } := by
      rw [run_succ]
      simp only [step, hp]
    exact told_on (hretrying h.1) (by rw [hrun, hlast]; exact h.2) (.inl (by rw [hrun]))
  | benching b =>
    rw [Told, hp] at h
    obtain ⟨w', -, -, hproceeds⟩ := step_benching hp (c.before n)
    exact told_on (hretrying h.1) (hproceeds.lastError.trans (h.2.trans hlast.symm)) hproceeds.phase
  | deciding =>
    rw [Told, hp] at h
    have hstep : c.after (n + 1) = (c.run n).take (c.before n) ((c.run n).turn (c.before n)) :=
      step_deciding hp (c.before n)
    cases ht : (c.run n).turn (c.before n) with
    | attempt node p => simp [attempted?, hp, ht] at ha
    | expire => exact told_finished (.other _ rfl) (by rw [run, hstep, ht]; rfl)
    | starve => exact told_finished (.other _ rfl) (by rw [run, hstep, ht]; rfl)
    | wait p span =>
      refine told_on (hretrying h.1) ?_ (.inr ⟨_, by rw [run, hstep, ht]; rfl⟩)
      rw [run, hstep, ht, hlast, ← h.2]
      exact wait_lastError ht
    | spent p error =>
      have hp' : (c.run (n + 1)).phase = .finished (.error error) := by rw [run, hstep, ht]; rfl
      rcases spent_error ht with rfl | ⟨rfl, hspent⟩
      · exact told_finished (.other _ rfl) hp'
      have hended := c.inTurn n
      rw [InTurn, hp] at hended
      have hcounted := c.counted n
      rw [hcounted.policy, hcounted.attempt, ← c.distinct_attempts] at hspent
      rw [hcounted.attempt, ← c.distinct_attempts, h.2] at hp'
      exact told_finished ((reported_spent hattempts hvisits h.1 hended hspent).of_same hl hends) hp'

theorem told_start (c : Course α) : c.Told 0 := by
  have hphase : (c.run 0).phase = .finished (.error .emptyTopology) ∨ (c.run 0).phase = .deciding := by
    unfold run after start
    dsimp only
    generalize (if c.request.isPinned then c.request.nodeIds.getD [] else c.world.consensus.select) = candidates
    split
    · exact .inl rfl
    · exact .inr rfl
  rcases hphase with hp | hp
  · exact told_finished (.other _ rfl) hp
  · exact told_on (fun _ he => absurd he List.not_mem_nil) rfl (.inl hp)

/-- While a request runs, all attempts that have ended were worth another. -/
theorem Told.retrying (h : c.Told n) (hrunning : (c.run n).result? = none) : c.Retrying n := by
  cases hp : (c.run n).phase with
  | finished result => simp [result?, hp] at hrunning
  | calling call => rw [Told, hp] at h; exact h
  | _ => rw [Told, hp] at h; exact h.1

theorem told (c : Course α) (hattempts : 1 ≤ c.policy.maxAttempts) (hvisits : c.policy.maxNodeVisits ≠ some 0)
    (hhooks : c.request.Discreet) (n : Nat) : c.Told n := by
  induction n with
  | zero => exact c.told_start
  | succ n ih =>
    cases deals (c.inTurn n) with
    | none hl he ha hfree _ =>
      have hends : c.endings (n + 1) = c.endings n := by rw [endings_succ, he]; exact List.append_nil _
      exact told_quiet hattempts hvisits ih hl hends ha hfree
    | one base node hrunning _ _ hattempted =>
      have hretrying := ih.retrying hrunning
      have hrequest : base.request = c.request :=
        hattempted.kept.request.symm.trans (c.counted (n + 1)).request
      cases he : (c.run n).ending? (c.before n) with
      | some e => exact told_judged hretrying he
      | none =>
        have hends : c.endings (n + 1) = c.endings n := by rw [endings_succ, he]; exact List.append_nil _
        rw [he] at hattempted
        cases hattempted with
        | raised error hook eq =>
          exact told_finished (.other error (hhooks error (hrequest ▸ hook))) (by rw [run, eq]; rfl)
        | called call _ eq =>
          have hp : (c.run (n + 1)).phase = .calling call := by rw [run, eq]
          rw [Told, hp, Retrying, hends]
          exact hretrying

/-- What is only ever worth another attempt is no result. -/
theorem Reported.absorbed {result : Except ClientError (Executed α)} (h : c.Reported n result) (status : LedgerStatus)
    (node : String) (number : Nat) : result ≠ .error (.transientRejection status node number) ∧
      result ≠ .error (.staleNodeIdentity status node number) := by
  cases h with
  | other error silent =>
    constructor
    · rintro ⟨⟩
      cases silent
    · rintro ⟨⟩
      cases silent
  | _ => exact ⟨by rintro ⟨⟩, by rintro ⟨⟩⟩

/-- What a request reports is what happened: its counts are those of the attempts that were begun, the node and the
error are those of the last, and every attempt before that was worth another. -/
theorem reported (c : Course α) (hattempts : 1 ≤ c.policy.maxAttempts) (hvisits : c.policy.maxNodeVisits ≠ some 0)
    (hhooks : c.request.Discreet) (n : Nat) {result : Except ClientError (Executed α)}
    (h : (c.run n).result? = some result) :
    c.Reported n result ∧ ∀ status node number, result ≠ .error (.transientRejection status node number) ∧
      result ≠ .error (.staleNodeIdentity status node number) := by
  have htold := c.told hattempts hvisits hhooks n
  unfold result? at h
  split at h
  · rename_i hp
    cases h
    rw [Told, hp] at htold
    exact ⟨htold, htold.absorbed⟩
  · cases h

/-- The last error of two attempts that nobody answered is that of the second. -/
theorem reported_unanswered : 1 ≤ (unanswered 2).policy.maxAttempts ∧ (unanswered 2).policy.maxNodeVisits ≠ some 0 ∧
    (unanswered 2).request.Discreet ∧ ((unanswered 2).run 8).result? = some (.error (.exhaustedRetries 2 1
      (some (.transport "0.0.3" 2 (.unavailable "no service listening on in-process:n"))))) ∧
    (unanswered 2).Reported 8 (.error (.exhaustedRetries 2 1
      (some (.transport "0.0.3" 2 (.unavailable "no service listening on in-process:n"))))) := by
  have hattempts : 1 ≤ (unanswered 2).policy.maxAttempts := by decide
  have hvisits : (unanswered 2).policy.maxNodeVisits ≠ some 0 := by decide
  have hhooks : (unanswered 2).request.Discreet := by
    rintro error (⟨node, h⟩ | ⟨response, h⟩ | ⟨response, node, h⟩) <;> cases h
  have hresult : ((unanswered 2).run 8).result? = some (.error (.exhaustedRetries 2 1
      (some (.transport "0.0.3" 2 (.unavailable "no service listening on in-process:n"))))) := by
    cbv
  exact ⟨hattempts, hvisits, hhooks, hresult, ((unanswered 2).reported hattempts hvisits hhooks 8 hresult).1⟩

end Course

end LedgerNet
