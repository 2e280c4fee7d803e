import Mathlib
import LedgerNet.Node.Health
import LedgerNet.Proofs.Time.Backoff

/-!
A node's health over whole runs of failures, successes and resets, at whatever instants they come. Each failure since
the last success or reset has grown the backoff, up to the ceiling. A failure benches the node for the backoff at
least, and always beyond the time for which it was benched already. While the clock does not go back that is never for
more than the ceiling and a nanosecond for each of those failures.
-/
namespace LedgerNet

theorem BackoffPolicy.grow_min {p : BackoffPolicy} (hgrowth : 1 ≤ p.growth) (hlongest : p.ceiling ≤ Span.longest)
    (span : Span) : p.grow (min span p.ceiling) = min (span * p.growth) p.ceiling := by
  have hceiling : p.ceiling ≤ p.ceiling * p.growth := Nat.le_mul_of_pos_right _ hgrowth
  calc p.grow (min span p.ceiling)
      = min (min span p.ceiling * p.growth) p.ceiling := Span.min_times hlongest _ _
    _ = min (min (span * p.growth) (p.ceiling * p.growth)) p.ceiling := by rw [min_mul]
    _ = min (span * p.growth) p.ceiling := by rw [min_assoc, min_eq_right hceiling]

/-- Something that changes a node's health, and when. -/
inductive HealthChange where
  | failed (now : Instant)
  | succeeded (now : Instant)
  | reset (now : Instant)

def HealthChange.now : HealthChange → Instant
  | .failed now | .succeeded now | .reset now => now

namespace NodeHealth

def change (h : NodeHealth) (p : BackoffPolicy) : HealthChange → NodeHealth
  | .failed now => h.fail p now
  | .succeeded now => h.succeed p now
  | .reset now => h.reset p now

/-- The health of a node that was new at some instant, after some changes, the latest first. -/
def after (p : BackoffPolicy) (start : Instant) : List HealthChange → NodeHealth
  | [] => .fresh p start
  | c :: past => (after p start past).change p c

/-- The failures since the last success or reset. -/
def setbacks : List HealthChange → Nat
  | .failed _ :: past => setbacks past + 1
  | .succeeded _ :: _ | .reset _ :: _ | [] => 0

/-- The failures since the last success. -/
def failuresInRow : List HealthChange → Nat
  | .failed _ :: past => failuresInRow past + 1
  | .reset _ :: past => failuresInRow past
  | .succeeded _ :: _ | [] => 0

def latest (start : Instant) : List HealthChange → Instant
  | [] => start
  | c :: _ => c.now

/-- The clock does not go back from one change to the next. -/
def Forward (start : Instant) : List HealthChange → Prop
  | [] => True
  | c :: past => latest start past ≤ c.now ∧ Forward start past

variable {p : BackoffPolicy} {start : Instant} {past : List HealthChange}

theorem backoff_after (hgrowth : 1 ≤ p.growth) (hfloor : p.floor ≤ p.ceiling) (hlongest : p.ceiling ≤ Span.longest)
    (start : Instant) (past : List HealthChange) :
    (after p start past).backoff = min (p.floor * p.growth ^ setbacks past) p.ceiling := by
  induction past with
  | nil => simp [after, fresh, setbacks, hfloor]
  | cons c past ih =>
    cases c with
    | failed now =>
      have hgrown : (after p start (.failed now :: past)).backoff = p.grow (after p start past).backoff := rfl
      rw [hgrown, ih, BackoffPolicy.grow_min hgrowth hlongest, setbacks, pow_succ, mul_assoc]
    | succeeded now => simp [after, change, succeed, setbacks, hfloor]
    | reset now => simp [after, change, reset, setbacks, hfloor]

/-- The count of failures goes as far as it can be counted. -/
theorem failures_after (p : BackoffPolicy) (start : Instant) (past : List HealthChange) :
    (after p start past).failures = min (failuresInRow past) Text.Natural.max32 := by
  induction past with
  | nil => simp [after, fresh, failuresInRow]
  | cons c past ih =>
    cases c with
    | failed now =>
      have hcounted : (after p start (.failed now :: past)).failures =
          min ((after p start past).failures + 1) Text.Natural.max32 := rfl
      rw [hcounted, ih, failuresInRow]
      omega
    | succeeded now => simp [after, change, succeed, failuresInRow]
    | reset now => exact ih

theorem backoff_le_fail (h : NodeHealth) (p : BackoffPolicy) (now : Instant) :
    now + (h.fail p now).backoff ≤ (h.fail p now).eligibleAt :=
  Nat.le_max_left _ _

theorem eligibleAt_lt_fail (h : NodeHealth) (p : BackoffPolicy) (now : Instant) :
    h.eligibleAt < (h.fail p now).eligibleAt :=
  Nat.le_max_right _ _

/-- The backoff never shrinks by a failure, so what was left of the last bench is made up for by the nanosecond. -/
theorem eligibleAt_le (hgrowth : 1 ≤ p.growth) (hfloor : p.floor ≤ p.ceiling) (hlongest : p.ceiling ≤ Span.longest)
    (hforward : Forward start past) :
    (after p start past).eligibleAt ≤ latest start past + (after p start past).backoff + setbacks past := by
  induction past with
  | nil => exact Nat.le_add_right start p.floor
  | cons c past ih =>
    obtain ⟨hlater, hforward⟩ := hforward
    cases c with
    | failed now =>
      have hle := ih hforward
      have hgrows : (after p start past).backoff ≤ (after p start (.failed now :: past)).backoff := by
        rw [backoff_after hgrowth hfloor hlongest, backoff_after hgrowth hfloor hlongest]
        refine min_le_min_right _ (Nat.mul_le_mul_left _ ?_)
        exact Nat.pow_le_pow_right hgrowth (Nat.le_succ _)
      have hbenched : (after p start (.failed now :: past)).eligibleAt =
          max (now + (after p start (.failed now :: past)).backoff) ((after p start past).eligibleAt + 1) := rfl
      rw [hbenched]
      refine Nat.max_le.mpr ⟨Nat.le_add_right _ _, Nat.succ_le_succ ?_⟩
      calc (after p start past).eligibleAt
          ≤ latest start past + (after p start past).backoff + setbacks past := hle
        _ ≤ now + (after p start (.failed now :: past)).backoff + setbacks past :=
            Nat.add_le_add_right (Nat.add_le_add hlater hgrows) _
    | succeeded now => exact Nat.le_add_right now p.floor
    | reset now => exact Nat.le_add_right now p.floor

/-- What is known of a node's health after some changes, the latest first. -/
structure Reflects (p : BackoffPolicy) (start : Instant) (past : List HealthChange) (h : NodeHealth) : Prop where
  backoff : h.backoff = if setbacks past = 0 then p.floor else min (p.floor * p.growth ^ setbacks past) p.ceiling
  /-- The count goes up to the most that 32 bits hold. -/
  failures : h.failures = min (failuresInRow past) Text.Natural.max32
  /-- One more failure benches the node for longer, and at least for the backoff. -/
  benches : ∀ now, h.eligibleAt < (h.fail p now).eligibleAt ∧
    now + (h.fail p now).backoff ≤ (h.fail p now).eligibleAt
  eligible : Forward start past → h.eligibleAt ≤ latest start past + h.backoff + setbacks past
  remaining : Forward start past → ∀ now, latest start past ≤ now → h.remaining now ≤ p.ceiling + setbacks past

theorem reflects (p : BackoffPolicy) (hgrowth : 1 ≤ p.growth) (hfloor : p.floor ≤ p.ceiling)
    (hlongest : p.ceiling ≤ Span.longest) (start : Instant) (past : List HealthChange) :
    Reflects p start past (after p start past) := by
  have hbackoff := backoff_after hgrowth hfloor hlongest start past
  have hbound (hforward : Forward start past) := eligibleAt_le hgrowth hfloor hlongest hforward
  refine ⟨?_, failures_after p start past, ?_, hbound, ?_⟩
  · rw [hbackoff]
    split
    · rename_i hnone
      rw [hnone, pow_zero, mul_one, min_eq_left hfloor]
    · rfl
  · exact fun now => ⟨eligibleAt_lt_fail _ p now, backoff_le_fail _ p now⟩
  · intro hforward now hnow
    have hle := hbound hforward
    have hceiling : (after p start past).backoff ≤ p.ceiling := hbackoff ▸ min_le_right _ _
    rw [NodeHealth.remaining, Nat.sub_le_iff_le_add]
    calc (after p start past).eligibleAt
        ≤ latest start past + (after p start past).backoff + setbacks past := hle
      _ ≤ now + p.ceiling + setbacks past := Nat.add_le_add_right (Nat.add_le_add hnow hceiling) _
      _ = p.ceiling + setbacks past + now := by ring

/-- A node that fails once before a security switch and three times at one instant after it. -/
def switchedOver : List HealthChange := [.failed 9, .failed 9, .failed 9, .reset 4, .failed 2]

theorem reflects_switchedOver :
    let p : BackoffPolicy := ⟨10, 35, 3⟩
    1 ≤ p.growth ∧ p.floor ≤ p.ceiling ∧ p.ceiling ≤ Span.longest ∧
      Reflects p 0 switchedOver (after p 0 switchedOver) ∧ after p 0 switchedOver = ⟨45, 35, 4⟩ := by
  refine ⟨by decide, by decide, by decide, ?_, by decide⟩
  exact reflects ⟨10, 35, 3⟩ (by decide) (by decide) (by decide) 0 switchedOver

end NodeHealth

end LedgerNet
