import Mathlib.Data.List.Nodup
import LedgerNet.Request.Pending

/-!
The retries of one request, in whatever order they are begun, judged, carried out, pointed elsewhere and given other
candidates: what each operation does, and what all of them keep.
-/
namespace LedgerNet.PendingRequest

variable {κ : Type} {p p' : PendingRequest κ} {maxAttempts : Nat} {maxVisits : Option Nat} {node : κ}
  {policy : RetryPolicy} {outcome : Outcome} {plan : RetryPlan} {error : ClientError}

/-- Carrying out a retry stays at the candidate, begins the round anew or goes on to the next candidate. -/
theorem apply_cases (p : PendingRequest κ) (plan : RetryPlan) (error : ClientError) :
    (plan.advance = false ∧ p.apply plan error = (false, { p with lastError := some error })) ∨
    (plan.advance = true ∧ p.candidates.length ≤ p.cursor + 1 ∧
      p.apply plan error = (true, { p with lastError := some error, cursor := 0 })) ∨
    (plan.advance = true ∧ p.cursor + 1 < p.candidates.length ∧
      p.apply plan error = (false, { p with lastError := some error, cursor := p.cursor + 1 })) := by
  unfold apply
  dsimp only
  cases hadvance : plan.advance with
  | false => exact .inl ⟨rfl, rfl⟩
  | true =>
    by_cases hlast : p.candidates.length ≤ p.cursor + 1
    · exact .inr (.inl ⟨rfl, hlast, if_pos hlast⟩)
    · exact .inr (.inr ⟨rfl, Nat.lt_of_not_le hlast, if_neg hlast⟩)

/-- All that a retry changes is where the next attempt is made, and what is remembered as the last error. -/
theorem apply_keeps (p : PendingRequest κ) (plan : RetryPlan) (error : ClientError) :
    (p.apply plan error).2.candidates = p.candidates ∧ (p.apply plan error).2.attempt = p.attempt ∧
    (p.apply plan error).2.visited = p.visited ∧ (p.apply plan error).2.lastError = some error := by
  obtain ⟨-, heq⟩ | ⟨-, -, heq⟩ | ⟨-, -, heq⟩ := p.apply_cases plan error <;>
    exact heq ▸ ⟨rfl, rfl, rfl, rfl⟩

theorem focus_cases (p : PendingRequest κ) (place : Nat) :
    (place < p.candidates.length ∧ p.focus place = { p with cursor := place }) ∨
    (p.candidates.length ≤ place ∧ p.focus place = p) := by
  unfold focus
  by_cases h : place < p.candidates.length
  · exact .inl ⟨h, if_pos h⟩
  · exact .inr ⟨Nat.le_of_not_lt h, if_neg h⟩

/-- A retry that begins the round anew pauses, however short its own delay is. -/
theorem backoff_le_plan (hadvance : (p.plan policy outcome).advance = true)
    (hlast : p.candidates.length ≤ p.cursor + 1) : policy.backoff p.attempt ≤ (p.plan policy outcome).delay := by
  unfold PendingRequest.plan at hadvance ⊢
  dsimp only at hadvance ⊢
  split
  · exact Nat.le_max_right _ _
  · rename_i hmid
    rw [if_neg hmid] at hadvance
    exact absurd (by simp [hadvance, hlast]) hmid

theorem eq_plan_of_judge [Identity κ] (h : p.judge policy outcome = .retry plan error) : plan = p.plan policy outcome := by
  unfold judge at h
  repeat' split at h
  all_goals cases h
  rfl

/-- The cursor points at a candidate, and neither more attempts were begun nor more nodes visited than the budgets
leave. -/
structure InBudget (maxAttempts : Nat) (maxVisits : Option Nat) (p : PendingRequest κ) : Prop where
  pointed : p.candidates ≠ [] → p.cursor < p.candidates.length
  once : p.visited.Nodup
  visited_le : p.visited.length ≤ p.attempt
  attempt_le : p.attempt ≤ maxAttempts
  visits_le : ∀ visits, maxVisits = some visits → p.visited.length ≤ visits

theorem InBudget.new (maxAttempts : Nat) (maxVisits : Option Nat) (candidates : List κ) :
    InBudget maxAttempts maxVisits { candidates } where
  pointed := List.length_pos_of_ne_nil
  once := List.nodup_nil
  visited_le := Nat.le_refl 0
  attempt_le := Nat.zero_le maxAttempts
  visits_le visits _ := Nat.zero_le visits

theorem InBudget.apply (hp : InBudget maxAttempts maxVisits p) (plan : RetryPlan) (error : ClientError) :
    InBudget maxAttempts maxVisits (p.apply plan error).2 := by
  obtain ⟨-, heq⟩ | ⟨-, -, heq⟩ | ⟨-, hlt, heq⟩ := p.apply_cases plan error
  · rw [heq]
    exact { hp with }
  · rw [heq]
    exact { hp with pointed := List.length_pos_of_ne_nil }
  · rw [heq]
    exact { hp with pointed := fun _ => hlt }

theorem InBudget.focus (hp : InBudget maxAttempts maxVisits p) (place : Nat) :
    InBudget maxAttempts maxVisits (p.focus place) := by
  obtain ⟨hlt, heq⟩ | ⟨-, heq⟩ := p.focus_cases place
  · rw [heq]
    exact { hp with pointed := fun _ => hlt }
  · rwa [heq]

/-- No candidate stands after the one the cursor is at. -/
def AtLast (p : PendingRequest κ) : Prop := ∀ place, p.cursor < place → p.candidates[place]? = none

theorem atLast_iff : p.AtLast ↔ p.candidates.length ≤ p.cursor + 1 := by
  simp only [AtLast, List.getElem?_eq_none_iff]
  exact ⟨fun h => h (p.cursor + 1) (Nat.lt_succ_self _), fun h place hlt => Nat.le_trans h hlt⟩

theorem InBudget.atLast (hp : InBudget maxAttempts maxVisits p) (hsome : p.candidates ≠ []) :
    p.AtLast ↔ p.cursor + 1 = p.candidates.length := by
  have hlt := hp.pointed hsome
  rw [atLast_iff]
  omega

/-- What is done with the retries of a request. -/
inductive Op (κ : Type) where
  | begin
  | judge (policy : RetryPolicy) (outcome : Outcome)
  | apply (plan : RetryPlan) (error : ClientError)
  | focus (place : Nat)
  | replace (candidates : List κ)

variable [DecidableEq κ]

/-- An attempt that is begun is one at the candidate whose turn it is, and both budgets leave it. -/
theorem begin_cases (h : p.begin? maxAttempts maxVisits = .ok (node, p')) :
    p.current? = some node ∧ p.attempt < maxAttempts ∧
    ((node ∈ p.visited ∧ p' = { p with attempt := p.attempt + 1 }) ∨
      (node ∉ p.visited ∧ (∀ visits, maxVisits = some visits → p.visited.length < visits) ∧
        p' = { p with attempt := p.attempt + 1, visited := node :: p.visited })) := by
  unfold begin? at h
  split at h
  · cases h
  · rename_i hcurrent
    dsimp only at h
    split at h
    · cases h
    · rename_i hleft
      cases h
      obtain ⟨hattempts, hvisits⟩ := not_or.mp hleft
      refine ⟨hcurrent, Nat.lt_of_not_le hattempts, ?_⟩
      by_cases hknown : node ∈ p.visited
      · exact .inl ⟨hknown, by simp [hknown]⟩
      · refine .inr ⟨hknown, ?_, by simp [hknown]⟩
        rintro visits rfl
        simpa [hknown] using hvisits

theorem begin_keeps (h : p.begin? maxAttempts maxVisits = .ok (node, p')) :
    p'.candidates = p.candidates ∧ p'.current? = some node ∧ p'.attempt = p.attempt + 1 := by
  obtain ⟨hcurrent, -, ⟨-, rfl⟩ | ⟨-, -, rfl⟩⟩ := begin_cases h <;> exact ⟨rfl, hcurrent, rfl⟩

theorem InBudget.begin (hp : InBudget maxAttempts maxVisits p) (h : p.begin? maxAttempts maxVisits = .ok (node, p')) :
    InBudget maxAttempts maxVisits p' := by
  obtain ⟨-, hlt, ⟨-, rfl⟩ | ⟨hnew, hfew, rfl⟩⟩ := begin_cases h
  · exact { hp with visited_le := Nat.le_succ_of_le hp.visited_le, attempt_le := hlt }
  · exact {
      pointed := hp.pointed
      once := List.nodup_cons.mpr ⟨hnew, hp.once⟩
      visited_le := Nat.succ_le_succ hp.visited_le
      attempt_le := hlt
      visits_le := hfew }

namespace Op

/-- The retries after an operation, under fixed budgets. -/
def after (maxAttempts : Nat) (maxVisits : Option Nat) (p : PendingRequest κ) : Op κ → PendingRequest κ
  | .begin =>
    match p.begin? maxAttempts maxVisits with
    | .ok (_, p') => p'
    | .error _ => p
  | .judge .. => p
  | .apply plan error => (p.apply plan error).2
  | .focus place => p.focus place
  | .replace candidates => p.replaceCandidates candidates

/-- Whether the operation begins an attempt. -/
def Begins (maxAttempts : Nat) (maxVisits : Option Nat) (p : PendingRequest κ) : Op κ → Prop
  | .begin => ∃ node p', p.begin? maxAttempts maxVisits = .ok (node, p')
  | _ => False

theorem after_begin (h : p.begin? maxAttempts maxVisits = .ok (node, p')) :
    Op.begin.after maxAttempts maxVisits p = p' := by
  rw [after, h]

theorem after_begin_failing (h : p.begin? maxAttempts maxVisits = .error error) :
    Op.begin.after maxAttempts maxVisits p = p := by
  rw [after, h]

end Op

theorem InBudget.after_op (hp : InBudget maxAttempts maxVisits p) (op : Op κ) :
    InBudget maxAttempts maxVisits (op.after maxAttempts maxVisits p) := by
  cases op with
  | begin =>
    cases hbegin : p.begin? maxAttempts maxVisits with
    | ok begun =>
      rw [Op.after_begin hbegin]
      exact hp.begin hbegin
    | error e => rwa [Op.after_begin_failing hbegin]
  | judge => exact hp
  | apply plan error => exact hp.apply plan error
  | focus place => exact hp.focus place
  | replace candidates => exact { hp with pointed := List.length_pos_of_ne_nil }

/-- Only beginning an attempt counts one. -/
theorem attempt_after_op (op : Op κ) :
    (op.Begins maxAttempts maxVisits p ∧ (op.after maxAttempts maxVisits p).attempt = p.attempt + 1) ∨
    (¬ op.Begins maxAttempts maxVisits p ∧ (op.after maxAttempts maxVisits p).attempt = p.attempt) := by
  cases op with
  | begin =>
    cases hbegin : p.begin? maxAttempts maxVisits with
    | ok begun =>
      refine .inl ⟨⟨_, _, hbegin⟩, ?_⟩
      rw [Op.after_begin hbegin]
      exact (begin_keeps hbegin).2.2
    | error e =>
      refine .inr ⟨?_, congrArg attempt (Op.after_begin_failing hbegin)⟩
      rintro ⟨node, p', hok⟩
      cases hbegin.symm.trans hok
  | judge => exact .inr ⟨id, rfl⟩
  | apply plan error => exact .inr ⟨id, (p.apply_keeps plan error).2.1⟩
  | focus place =>
    refine .inr ⟨id, ?_⟩
    obtain ⟨-, heq⟩ | ⟨-, heq⟩ := p.focus_cases place <;> rw [Op.after, heq]
  | replace candidates => exact .inr ⟨id, rfl⟩

/-- The retries of a new request with some candidates after a run of operations. -/
def after (maxAttempts : Nat) (maxVisits : Option Nat) (candidates : List κ) (ops : List (Op κ)) : PendingRequest κ :=
  ops.foldl (Op.after maxAttempts maxVisits) { candidates }

theorem inBudget_after (maxAttempts : Nat) (maxVisits : Option Nat) (candidates : List κ) (ops : List (Op κ)) :
    InBudget maxAttempts maxVisits (after maxAttempts maxVisits candidates ops) :=
  List.foldlRecOn ops _ (InBudget.new maxAttempts maxVisits candidates) fun _ hp op _ => hp.after_op op

/-- Going back to a node that was visited spends no visit, and takes only an attempt that is left. -/
theorem begin_again (hcurrent : p.current? = some node) (hknown : node ∈ p.visited) (hlt : p.attempt < maxAttempts) :
    p.begin? maxAttempts maxVisits = .ok (node, { p with attempt := p.attempt + 1 }) := by
  simp [begin?, hcurrent, hknown, hlt]

variable [Identity κ]

/-- What an operation does, and what it leaves alone. -/
structure Behaves (maxAttempts : Nat) (maxVisits : Option Nat) (p : PendingRequest κ) : Prop where
  counted : ∀ op : Op κ,
    (op.Begins maxAttempts maxVisits p ∧ (op.after maxAttempts maxVisits p).attempt = p.attempt + 1) ∨
    (¬ op.Begins maxAttempts maxVisits p ∧ (op.after maxAttempts maxVisits p).attempt = p.attempt)
  refused : ∀ error, p.begin? maxAttempts maxVisits = .error error → Op.begin.after maxAttempts maxVisits p = p
  beyond : ∀ place, p.candidates.length ≤ place → (Op.focus place).after maxAttempts maxVisits p = p
  judged : ∀ policy outcome, (Op.judge policy outcome).after maxAttempts maxVisits p = p
  /-- A node that was visited before is tried again while an attempt is left, whatever visits are, and spends none. -/
  revisited : ∀ node, p.current? = some node → node ∈ p.visited → p.attempt < maxAttempts →
    p.begin? maxAttempts maxVisits = .ok (node, { p with attempt := p.attempt + 1 })
  last : p.candidates ≠ [] → (p.AtLast ↔ p.cursor + 1 = p.candidates.length)
  /-- The retry that was just decided on begins the round anew if it goes on from the last candidate, and then it
  pauses. -/
  turns : ∀ policy outcome plan error, p.judge policy outcome = .retry plan error →
    ((p.apply plan error).1 = true ↔ plan.advance = true ∧ p.AtLast) ∧
    ((p.apply plan error).1 = true → policy.backoff p.attempt ≤ plan.delay)

theorem InBudget.behaves (hp : InBudget maxAttempts maxVisits p) : Behaves maxAttempts maxVisits p where
  counted := attempt_after_op
  refused _ h := Op.after_begin_failing h
  beyond _ h := if_neg (Nat.not_lt_of_le h)
  judged _ _ := rfl
  revisited _ := begin_again
  last := hp.atLast
  turns policy outcome plan error h := by
    rw [atLast_iff]
    have hplan := eq_plan_of_judge h
    obtain ⟨hstay, heq⟩ | ⟨hadvance, hlast, heq⟩ | ⟨-, hmid, heq⟩ := p.apply_cases plan error
    · simp [heq, hstay]
    · subst hplan
      exact ⟨by simp [heq, hadvance, hlast], fun _ => backoff_le_plan hadvance hlast⟩
    · simp [heq, hmid]

/-- Whatever was done with the retries before, they keep within their budgets with the cursor at a candidate, and
each operation does what it should. -/
theorem retries_keep (maxAttempts : Nat) (maxVisits : Option Nat) (candidates : List κ) (ops : List (Op κ)) :
    InBudget maxAttempts maxVisits (after maxAttempts maxVisits candidates ops) ∧
    Behaves maxAttempts maxVisits (after maxAttempts maxVisits candidates ops) :=
  have hp := inBudget_after maxAttempts maxVisits candidates ops
  ⟨hp, hp.behaves⟩

/-- When both of two nodes have had a turn, the round begins anew after a pause, and the first is tried again though
no visit is left. -/
theorem retries_keep_secondRound :
    let policy : RetryPolicy := { maxNodeVisits := some 2 }
    let failed : Outcome := .transportFailure (.unavailable "down") true
    let once := after 10 (some 2) ["a", "b"] [.begin, .apply ⟨0, true, true, false⟩ .emptyTopology, .begin]
    let round := after 10 (some 2) ["a", "b"]
      [.begin, .apply ⟨0, true, true, false⟩ .emptyTopology, .begin, .apply ⟨0, true, true, false⟩ .emptyTopology]
    (∃ plan error, once.judge policy failed = .retry plan error ∧ (once.apply plan error).1 = true ∧
      policy.backoff 2 ≤ plan.delay) ∧
    round.visited.length = 2 ∧ round.begin? 10 (some 2) = .ok ("a", { round with attempt := 3 }) := by
  intro policy failed once round
  have hturns := (retries_keep 10 (some 2) ["a", "b"]
    [.begin, .apply ⟨0, true, true, false⟩ .emptyTopology, .begin]).2.turns policy failed (once.plan policy failed) _ rfl
  have hwraps := hturns.1.mpr ⟨rfl, atLast_iff.mpr (by decide)⟩
  refine ⟨⟨_, _, rfl, hwraps, hturns.2 hwraps⟩, rfl, ?_⟩
  exact (retries_keep 10 (some 2) ["a", "b"] _).2.revisited "a" rfl (by decide) (by decide)

end LedgerNet.PendingRequest
