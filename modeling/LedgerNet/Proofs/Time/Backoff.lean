import Mathlib
import LedgerNet.Request.Pending

/-!
The delays between the attempts of a request and before the reconnects of a subscription. Both double with every
attempt, up to a ceiling, but neither doubles more than 31 times: settings whose ceiling is still out of reach by then
get the delay of the 31st doubling from there on.
-/
namespace LedgerNet

namespace Span

/-- The factor of a delay after some doublings, as the word that it is worked out in: a one moved up, by as many
places as 32 bits have room for. -/
def factor (doublings : Nat) : UInt32 := 1 <<< UInt32.ofNat (min doublings 31)

/-- The one is never moved out of the word. -/
theorem toNat_factor (doublings : Nat) : (factor doublings).toNat = 2 ^ min doublings 31 := by
  have hword : ∀ places : Fin 32, ((1 : UInt32) <<< UInt32.ofNat places).toNat = 2 ^ places.val := by decide
  exact hword ⟨min doublings 31, Nat.lt_succ_of_le (Nat.min_le_right _ _)⟩

/-- A product too long to be a span is past every ceiling anyway. -/
theorem min_times {ceiling : Nat} (hlongest : ceiling ≤ longest) (span n : Nat) :
    min (times span n) ceiling = min (span * n) ceiling := by
  rw [times, min_assoc, min_eq_right hlongest]

theorem times_exact {ceiling : Nat} (hlongest : ceiling ≤ longest) (span n : Nat) :
    times span n = span * n ∨ ceiling ≤ times span n := by
  rcases le_total (span * n) longest with hfits | hcut
  · exact .inl (min_eq_left hfits)
  · exact .inr (le_min (hlongest.trans hcut) hlongest)

/-- Every span that settings can name is short enough. -/
theorem ofMillis_le_longest (ms : UInt64) : ofMillis ms.toNat ≤ longest := by
  have hword : ms.toNat < 2 ^ 64 := ms.toNat_lt
  calc ms.toNat * 1000000 ≤ 18446744073709551615 * 1000000 := Nat.mul_le_mul_right _ (Nat.le_of_lt_succ hword)
    _ ≤ longest := by decide

theorem requestBackoff_eq {ceiling : Span} (hlongest : ceiling ≤ longest) (attempt : Nat) (floor : Span) :
    requestBackoff attempt floor ceiling = min (floor * 2 ^ min (attempt - 1) 31) ceiling := by
  rw [requestBackoff, Nat.pow_eq, min_times hlongest]

/-- A delay before a reconnect is never so long that it would have to be cut. -/
theorem streamBackoff_eq (attempt : Nat) (ceiling : Span) :
    streamBackoff attempt ceiling = min (ofMillis 500 * 2 ^ min attempt 31) ceiling := by
  have hpow : 2 ^ min attempt 31 ≤ 2 ^ 31 := Nat.pow_le_pow_right Nat.two_pos (Nat.min_le_right _ _)
  have hshort : ofMillis 500 * 2 ^ min attempt 31 ≤ longest :=
    Nat.le_trans (Nat.mul_le_mul_left _ hpow) (by decide)
  rw [streamBackoff, times, Nat.pow_eq, streamBase, Nat.min_eq_left hshort]

/-- To stop after 31 doublings changes nothing if there are no more, or if the ceiling is reached by then. -/
theorem stopped_eq_iff (floor ceiling doublings : Nat) :
    min (floor * 2 ^ min doublings 31) ceiling = min (floor * 2 ^ doublings) ceiling ↔
      doublings ≤ 31 ∨ floor = 0 ∨ ceiling ≤ floor * 2 ^ 31 := by
  rcases Nat.lt_or_ge 31 doublings with hmany | hfew
  · rw [min_eq_right hmany.le]
    have hlast : 2 * (floor * 2 ^ 31) ≤ floor * 2 ^ doublings := calc
      2 * (floor * 2 ^ 31) = floor * 2 ^ 32 := by ring
      _ ≤ floor * 2 ^ doublings := Nat.mul_le_mul_left _ (Nat.pow_le_pow_right Nat.two_pos hmany)
    have hnothing : floor = 0 → floor * 2 ^ doublings = 0 := by
      rintro rfl
      exact Nat.zero_mul _
    generalize floor * 2 ^ doublings = doubled at hlast hnothing ⊢
    omega
  · rw [min_eq_left hfew]
    exact iff_of_true rfl (.inl hfew)

end Span

/-- A delay after each number of attempts that starts at `floor` and is doubled, up to `ceiling`, as often as
`doublings` says. -/
structure Doubles (delay doublings : Nat → Nat) (floor ceiling : Span) : Prop where
  law_iff : ∀ attempt, delay attempt = min (floor * 2 ^ doublings attempt) ceiling ↔
    doublings attempt ≤ 31 ∨ floor = 0 ∨ ceiling ≤ floor * 2 ^ 31
  monotone : Monotone delay
  bounded : ∀ attempt, floor ≤ delay attempt ∧ delay attempt ≤ ceiling
  /-- No bit of the factor is lost, and the product is exact or past the ceiling. -/
  computed : ∀ attempt, delay attempt = min (floor.times (Span.factor (doublings attempt)).toNat) ceiling ∧
    (Span.factor (doublings attempt)).toNat = 2 ^ min (doublings attempt) 31 ∧
    (floor.times (Span.factor (doublings attempt)).toNat = floor * (Span.factor (doublings attempt)).toNat ∨
      ceiling ≤ floor.times (Span.factor (doublings attempt)).toNat)

/-- What is worked out by stopped doublings has all of these properties. -/
theorem Doubles.of_eq {delay doublings : Nat → Nat} {floor ceiling : Span} (hmono : Monotone doublings)
    (hfloor : floor ≤ ceiling) (hlongest : ceiling ≤ Span.longest)
    (h : ∀ attempt, delay attempt = min (floor * 2 ^ min (doublings attempt) 31) ceiling) :
    Doubles delay doublings floor ceiling where
  law_iff attempt := by
    rw [h attempt]
    exact Span.stopped_eq_iff floor ceiling (doublings attempt)
  monotone a b hle := by
    rw [h a, h b]
    have hpow : 2 ^ min (doublings a) 31 ≤ 2 ^ min (doublings b) 31 :=
      Nat.pow_le_pow_right Nat.two_pos (min_le_min_right 31 (hmono hle))
    exact min_le_min_right ceiling (Nat.mul_le_mul_left floor hpow)
  bounded attempt := by
    rw [h attempt]
    have hpos : 0 < 2 ^ min (doublings attempt) 31 := Nat.two_pow_pos _
    exact ⟨le_min (Nat.le_mul_of_pos_right floor hpos) hfloor, min_le_right _ _⟩
  computed attempt := by
    refine ⟨?_, Span.toNat_factor _, Span.times_exact hlongest _ _⟩
    rw [h attempt, Span.toNat_factor, Span.min_times hlongest]

namespace Config

/-- Settings are refused unless their ceilings leave room for the shortest delays. -/
theorem backoffs_ordered {c : Config} (h : c.validate = .ok ()) :
    c.minBackoffMs.toNat ≤ c.maxBackoffMs.toNat ∧ 500 ≤ c.streamMaxBackoffMs.toNat := by
  unfold validate at h
  split at h
  · cases h
  split at h
  · cases h
  rename_i hrequest
  split at h
  · cases h
  split at h
  · cases h
  rename_i hstream
  exact ⟨UInt64.le_iff_toNat_le.mp (UInt64.not_lt.mp hrequest), UInt64.le_iff_toNat_le.mp (UInt64.not_lt.mp hstream)⟩

/-- The delays that valid settings ask for, of requests and of streams, after any number of attempts. -/
theorem delays_double {c : Config} (h : c.validate = .ok ()) :
    Doubles (RetryPolicy.ofConfig c).backoff (· - 1) (RetryPolicy.ofConfig c).minBackoff
        (RetryPolicy.ofConfig c).maxBackoff ∧
      Doubles (fun attempt => Span.streamBackoff attempt c.streamMaxBackoff) id (Span.ofMillis 500)
        c.streamMaxBackoff := by
  obtain ⟨hrequest, hstream⟩ := backoffs_ordered h
  constructor
  · refine .of_eq (fun _ _ hle => Nat.sub_le_sub_right hle 1) (Nat.mul_le_mul_right _ hrequest)
      (Span.ofMillis_le_longest _) ?_
    exact fun attempt => Span.requestBackoff_eq (Span.ofMillis_le_longest _) attempt _
  · refine .of_eq monotone_id (Nat.mul_le_mul_right _ hstream) (Span.ofMillis_le_longest _) ?_
    exact fun attempt => Span.streamBackoff_eq attempt _

/-- Requests of a first delay of a millisecond, that may wait for some fifty days between two attempts. -/
def unhurried : Config := { minBackoffMs := 1, maxBackoffMs := 4294967296 }

/-- The delay after the 32nd attempt is that of the law, the next one is not. -/
theorem delays_double_unhurried :
    unhurried.validate = .ok () ∧
      (RetryPolicy.ofConfig unhurried).backoff 32 = min (Span.ofMillis 1 * 2 ^ (32 - 1)) (Span.ofMillis 4294967296) ∧
      (RetryPolicy.ofConfig unhurried).backoff 33 ≠ min (Span.ofMillis 1 * 2 ^ (33 - 1)) (Span.ofMillis 4294967296) ∧
      Span.streamBackoff 60 unhurried.streamMaxBackoff =
        min (Span.ofMillis 500 * 2 ^ 60) (Span.ofMillis 8000) := by
  have hvalid : unhurried.validate = .ok () := by rfl
  obtain ⟨hrequest, hstream⟩ := delays_double hvalid
  refine ⟨hvalid, (hrequest.law_iff 32).mpr (.inl (by decide)), ?_,
    (hstream.law_iff 60).mpr (.inr (.inr (by decide)))⟩
  exact fun hlaw => absurd ((hrequest.law_iff 33).mp hlaw) (by decide)

/-- A delay of 2^31 milliseconds is not doubled, though twice as long is allowed. -/
theorem not_always_doubling : ¬ ∀ (c : Config) (attempt : UInt32), c.validate = .ok () → 1 ≤ attempt.toNat →
    (RetryPolicy.ofConfig c).backoff attempt.toNat =
      min (Span.ofMillis c.minBackoffMs.toNat * 2 ^ (attempt.toNat - 1)) (Span.ofMillis c.maxBackoffMs.toNat) := by
  intro h
  exact absurd (h unhurried 33 (by rfl) (by decide)) (by decide)

end Config

end LedgerNet
