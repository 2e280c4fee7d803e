import LedgerNet.Proofs.Time.Timestamp

/-! Consensus time as a plain count of nanoseconds. -/
namespace LedgerNet.Timestamp

/-- The nanoseconds since 1970, whichever way they are split. -/
def instant (t : Timestamp) : Int := t.seconds.toInt * nanosPerSecond + t.nanos.toNat

/-- The seconds run out with the last instant they can name. -/
theorem reaches_iff {t : Timestamp} {n : Nat} :
    t.reaches n = true ↔ t.instant + n < (Int64.maxValue.toInt + 1) * nanosPerSecond := by
  have hsecond : nanosPerSecond = 1000000000 := rfl
  rw [reaches, decide_eq_true_eq, instant, hsecond]
  generalize Int64.maxValue.toInt = last
  omega

/-- Carrying whole seconds over neither gains nor loses a nanosecond. -/
theorem instant_plusNanos {t : Timestamp} {n : Nat} (h : t.reaches n = true) :
    (t.plusNanos n).instant = t.instant + n := by
  have hsecond : nanosPerSecond = 1000000000 := rfl
  rw [instant, instant, plusNanos_seconds h, plusNanos_nanos, hsecond]
  omega

example : (Timestamp.mk (-1) 4294967295).plusNanos 1 = ⟨3, 294967296⟩ := by decide

theorem reaches_plusNanos_iff {t : Timestamp} {a b : Nat} :
    t.reaches (a + b) = true ↔ t.reaches a = true ∧ (t.plusNanos a).reaches b = true := by
  refine ⟨reaches_plusNanos, fun ⟨ha, hb⟩ => ?_⟩
  rw [reaches_iff, instant_plusNanos ha] at hb
  rw [reaches_iff]
  push_cast
  omega

/-- The pair is ordered as the one number, so long as the nanoseconds stay below a second. -/
theorem order_eq_compare {a b : Timestamp} (ha : a.IsNormal) (hb : b.IsNormal) :
    order a b = compare a.instant b.instant := by
  have hsecond : nanosPerSecond = 1000000000 := rfl
  rw [IsNormal, hsecond] at ha hb
  rw [instant, instant, hsecond]
  cases h : order a b with
  | lt =>
    simp only [order, Ordering.then_eq_lt, Int.compare_eq_lt, Int.compare_eq_eq, Nat.compare_eq_lt] at h
    exact (Int.compare_eq_lt.mpr (by omega)).symm
  | eq =>
    simp only [order, Ordering.then_eq_eq, Int.compare_eq_eq, Nat.compare_eq_eq] at h
    exact (Int.compare_eq_eq.mpr (by omega)).symm
  | gt =>
    simp only [order, Ordering.then_eq_gt, Int.compare_eq_gt, Int.compare_eq_eq, Nat.compare_eq_gt] at h
    exact (Int.compare_eq_gt.mpr (by omega)).symm

theorem precedes_iff_instant {a b : Timestamp} (ha : a.IsNormal) (hb : b.IsNormal) :
    a.Precedes b ↔ a.instant < b.instant := by
  rw [Precedes, order_eq_compare ha hb, Int.compare_eq_lt]

/-- The normal form of an instant is unique. -/
theorem eq_of_instant {a b : Timestamp} (ha : a.IsNormal) (hb : b.IsNormal) (h : a.instant = b.instant) :
    a = b := by
  have hsecond : nanosPerSecond = 1000000000 := rfl
  rw [IsNormal, hsecond] at ha hb
  rw [instant, instant, hsecond] at h
  have hseconds : a.seconds = b.seconds := Int64.toInt_inj.mp (by omega)
  have hnanos : a.nanos = b.nanos := UInt32.toNat_inj.mp (by omega)
  cases a
  cases b
  exact congr (congrArg Timestamp.mk hseconds) hnanos

/-- Two strides lead where one stride of their length does. -/
theorem plusNanos_plusNanos {t : Timestamp} {a b : Nat} (h : t.reaches (a + b) = true) :
    (t.plusNanos a).plusNanos b = t.plusNanos (a + b) := by
  obtain ⟨ha, hb⟩ := reaches_plusNanos h
  refine eq_of_instant (plusNanos_normal _ b) (plusNanos_normal t _) ?_
  rw [instant_plusNanos hb, instant_plusNanos ha, instant_plusNanos h]
  push_cast
  omega

/-- Nothing in normal form lies between an instant and the next. -/
theorem nothing_between {t s : Timestamp} (ht : t.IsNormal) (hs : s.IsNormal) (h : t.reaches 1 = true) :
    ¬ (t.Precedes s ∧ s.Precedes (t.plusNanos 1)) := by
  rw [precedes_iff_instant ht hs, precedes_iff_instant hs (plusNanos_normal t 1), instant_plusNanos h]
  omega

/-- What arithmetic on a timestamp, in normal form or not, says of plain time, as long as the seconds hold
out. The strides are of any length: no sum of nanoseconds is too large here. -/
structure IsExact (t : Timestamp) : Prop where
  plus : ∀ n, t.reaches n = true → (t.plusNanos n).IsNormal ∧ (t.plusNanos n).instant = t.instant + n
  /-- Put together of the same parts, it is the same instant in normal form. -/
  built : (Timestamp.mk t.seconds 0).reaches t.nanos.toNat = true →
    (ofParts t.seconds t.nanos).IsNormal ∧ (ofParts t.seconds t.nanos).instant = t.instant
  reached : ∀ a b, t.reaches (a + b) = true ↔ t.reaches a = true ∧ (t.plusNanos a).reaches b = true
  composes : ∀ a b, t.reaches (a + b) = true → (t.plusNanos a).plusNanos b = t.plusNanos (a + b)
  ordered : t.IsNormal → ∀ s : Timestamp, s.IsNormal → order t s = compare t.instant s.instant
  /-- The next instant is later even for a pair that was never put into normal form. -/
  later : t.reaches 1 = true → t.Precedes (t.plusNanos 1)
  next : t.IsNormal → t.reaches 1 = true →
    ∀ s : Timestamp, s.IsNormal → ¬ (t.Precedes s ∧ s.Precedes (t.plusNanos 1))

/-- Arithmetic on timestamps is that of whole nanoseconds, and the instant one nanosecond later is the next. -/
theorem arithmetic_exact (t : Timestamp) : t.IsExact where
  plus n h := ⟨plusNanos_normal t n, instant_plusNanos h⟩
  built h := by
    refine ⟨plusNanos_normal _ _, (instant_plusNanos h).trans ?_⟩
    simp only [instant, UInt32.toNat_zero, Nat.cast_zero, add_zero]
  reached _ _ := reaches_plusNanos_iff
  composes _ _ := plusNanos_plusNanos
  ordered ht _ hs := order_eq_compare ht hs
  later h := precedes_plusNanos h Nat.one_pos
  next ht h _ hs := nothing_between ht hs h

/-- A pair with more than four seconds of nanoseconds is put into normal form at once or by the next nanosecond, and
the last instant before 1970 has the first of 1970 as its next. -/
theorem arithmetic_exact_carrying :
    (ofParts (-1) 4294967295).instant = 3294967295 ∧
    ((Timestamp.mk (-1) 4294967295).plusNanos 1).instant = 3294967295 + 1 ∧
    (Timestamp.mk (-1) 4294967295).Precedes ((Timestamp.mk (-1) 4294967295).plusNanos 1) ∧
    ((Timestamp.mk (-1) 999999999).plusNanos 1).plusNanos 2 = (Timestamp.mk (-1) 999999999).plusNanos 3 ∧
    order (Timestamp.mk (-1) 999999999) ⟨0, 0⟩ = compare (-1 : Int) 0 ∧
    ¬ ((Timestamp.mk (-1) 999999999).Precedes ⟨0, 0⟩ ∧
      (Timestamp.mk 0 0).Precedes ((Timestamp.mk (-1) 999999999).plusNanos 1)) := by
  obtain ⟨hplus, hbuilt, -, -, -, hlater, -⟩ := arithmetic_exact ⟨-1, 4294967295⟩
  obtain ⟨-, -, -, hcomposes, hordered, -, hnext⟩ := arithmetic_exact ⟨-1, 999999999⟩
  exact ⟨(hbuilt (by decide)).2, (hplus 1 (by decide)).2, hlater (by decide), hcomposes 1 2 (by decide),
    hordered (by decide) ⟨0, 0⟩ (by decide), hnext (by decide) (by decide) ⟨0, 0⟩ (by decide)⟩

end LedgerNet.Timestamp
