import Mathlib
import LedgerNet.Time.Timestamp

/-! The order of consensus time, and the instant right after another. -/
namespace LedgerNet.Timestamp

/-- Whether the nanoseconds are less than a second. -/
def IsNormal (t : Timestamp) : Prop := t.nanos.toNat < nanosPerSecond

/-- Whether `a` is before `b`. -/
def Precedes (a b : Timestamp) : Prop := order a b = .lt

instance (t : Timestamp) : Decidable t.IsNormal := Nat.decLt _ _

instance (a b : Timestamp) : Decidable (a.Precedes b) := decEq (order a b) .lt

theorem precedes_iff {a b : Timestamp} : a.Precedes b ↔ a.seconds.toInt < b.seconds.toInt ∨
    a.seconds.toInt = b.seconds.toInt ∧ a.nanos.toNat < b.nanos.toNat := by
  simp only [Precedes, order, Ordering.then_eq_lt, Int.compare_eq_lt, Int.compare_eq_eq, Nat.compare_eq_lt]

theorem atMost_iff {a b : Timestamp} : a.atMost b = true ↔ ¬ b.Precedes a := by
  simp only [atMost, bne_iff_ne, ne_eq, order, Ordering.then_eq_gt, Int.compare_eq_gt, Int.compare_eq_eq,
    Nat.compare_eq_gt, precedes_iff]
  rw [eq_comm]

theorem Precedes.irrefl (a : Timestamp) : ¬ a.Precedes a := by
  rw [precedes_iff]
  omega

theorem Precedes.trans {a b c : Timestamp} (hab : a.Precedes b) (hbc : b.Precedes c) : a.Precedes c := by
  rw [precedes_iff] at hab hbc ⊢
  omega

theorem Precedes.asymm {a b : Timestamp} (h : a.Precedes b) : ¬ b.Precedes a :=
  fun hba => Precedes.irrefl a (h.trans hba)

theorem atMost_trans {a b c : Timestamp} (hab : a.atMost b = true) (hbc : b.Precedes c) : a.atMost c = true := by
  rw [atMost_iff, precedes_iff] at hab ⊢
  rw [precedes_iff] at hbc
  omega

theorem reaches_next {t : Timestamp} (hn : t.IsNormal) (hs : t.seconds.toInt < Int64.maxValue.toInt) :
    t.reaches 1 = true := by
  have hone : (t.nanos.toNat + 1) / nanosPerSecond ≤ 1 := by
    have hnanos : t.nanos.toNat < 1000000000 := hn
    rw [nanosPerSecond]
    omega
  simp only [reaches, decide_eq_true_eq]
  generalize (t.nanos.toNat + 1) / nanosPerSecond = carried at hone ⊢
  omega

/-- What another instant comes after has a next one. -/
theorem Precedes.reaches_next {a b : Timestamp} (h : a.Precedes b) (ha : a.IsNormal) (hb : b.IsNormal) :
    a.reaches 1 = true := by
  have hnanos : b.nanos.toNat < nanosPerSecond := hb
  have hmax : b.seconds.toInt ≤ Int64.maxValue.toInt := b.seconds.toInt_le
  rcases precedes_iff.mp h with hlt | ⟨heq, hlt⟩
  · exact Timestamp.reaches_next ha (lt_of_lt_of_le hlt hmax)
  · have hcarried : (a.nanos.toNat + 1) / nanosPerSecond = 0 := Nat.div_eq_of_lt (by omega)
    simp only [reaches, hcarried, decide_eq_true_eq]
    omega

theorem plusNanos_nanos (t : Timestamp) (n : Nat) :
    (t.plusNanos n).nanos.toNat = (t.nanos.toNat + n) % nanosPerSecond := by
  have hlt : (t.nanos.toNat + n) % nanosPerSecond < nanosPerSecond := Nat.mod_lt _ (by decide)
  exact UInt32.toNat_ofNat_of_lt' (Nat.lt_trans hlt (by decide))

theorem plusNanos_normal (t : Timestamp) (n : Nat) : (t.plusNanos n).IsNormal := by
  rw [IsNormal, plusNanos_nanos]
  exact Nat.mod_lt _ (by decide)

theorem plusNanos_seconds {t : Timestamp} {n : Nat} (h : t.reaches n = true) :
    (t.plusNanos n).seconds.toInt = t.seconds.toInt + ((t.nanos.toNat + n) / nanosPerSecond : Nat) := by
  have hlow : -0x8000000000000000 ≤ t.seconds.toInt := t.seconds.le_toInt
  have hhigh : t.seconds.toInt + ((t.nanos.toNat + n) / nanosPerSecond : Nat) < 0x8000000000000000 :=
    Int.lt_add_one_of_le (of_decide_eq_true h)
  have hcarried : (0 : Int) ≤ ((t.nanos.toNat + n) / nanosPerSecond : Nat) := Int.natCast_nonneg _
  exact Int64.toInt_ofInt_of_le (Int.le_trans hlow (Int.le_add_of_nonneg_right hcarried)) hhigh

/-- The instant right after another, where there is one. -/
theorem plusNanos_one {t : Timestamp} (hn : t.IsNormal) (hs : t.reaches 1 = true) :
    (t.nanos.toNat + 1 < nanosPerSecond ∧ (t.plusNanos 1).seconds.toInt = t.seconds.toInt ∧
        (t.plusNanos 1).nanos.toNat = t.nanos.toNat + 1) ∨
      (t.nanos.toNat + 1 = nanosPerSecond ∧ (t.plusNanos 1).seconds.toInt = t.seconds.toInt + 1 ∧
        (t.plusNanos 1).nanos.toNat = 0) := by
  rw [plusNanos_seconds hs, plusNanos_nanos]
  rcases Nat.lt_or_eq_of_le (Nat.succ_le_of_lt hn) with h | h
  · refine .inl ⟨h, ?_, Nat.mod_eq_of_lt h⟩
    simp [Nat.div_eq_of_lt h]
  · refine .inr ⟨h, ?_, ?_⟩
    · rw [show t.nanos.toNat + 1 = nanosPerSecond from h]
      rfl
    · rw [show t.nanos.toNat + 1 = nanosPerSecond from h]
      rfl

/-- A later instant comes after. -/
theorem precedes_plusNanos {t : Timestamp} {n : Nat} (h : t.reaches n = true) (hn : 0 < n) :
    t.Precedes (t.plusNanos n) := by
  have hsecond : nanosPerSecond = 1000000000 := rfl
  rw [precedes_iff, plusNanos_seconds h, plusNanos_nanos, hsecond]
  omega

/-- What is reached at once is reached in two strides. -/
theorem reaches_plusNanos {t : Timestamp} {a b : Nat} (h : t.reaches (a + b) = true) :
    t.reaches a = true ∧ (t.plusNanos a).reaches b = true := by
  have hsecond : nanosPerSecond = 1000000000 := rfl
  have hfar : t.seconds.toInt + ((t.nanos.toNat + (a + b)) / nanosPerSecond : Nat) ≤ Int64.maxValue.toInt :=
    of_decide_eq_true h
  have ha : t.reaches a = true := by
    refine decide_eq_true (Int.le_trans ?_ hfar)
    rw [hsecond]
    omega
  refine ⟨ha, decide_eq_true (Int.le_trans (le_of_eq ?_) hfar)⟩
  rw [plusNanos_seconds ha, plusNanos_nanos, hsecond]
  omega

/-- What is stamped no earlier than right after an instant is stamped later, and the other way round. -/
theorem next_atMost {t s : Timestamp} (ht : t.IsNormal) (hs : s.IsNormal) (hnext : t.reaches 1 = true) :
    (t.plusNanos 1).atMost s = true ↔ t.Precedes s := by
  have hnanos : s.nanos.toNat < nanosPerSecond := hs
  rw [atMost_iff, precedes_iff, precedes_iff]
  rcases plusNanos_one ht hnext with ⟨_, hsec, hn⟩ | ⟨hfull, hsec, hn⟩
  · rw [hsec, hn]
    omega
  · rw [hsec, hn]
    omega

end LedgerNet.Timestamp
