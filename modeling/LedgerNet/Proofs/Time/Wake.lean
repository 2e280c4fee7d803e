import LedgerNet.Time.Span

/-! When sleeps end. -/
namespace LedgerNet.Instant

/-- A sleep never ends before its time. -/
theorem le_wake (t : Nat) : t ≤ wake t := by
  have h : wake t = (t + 999999) / 1000000 * 1000000 := rfl
  rw [h]
  omega

theorem wake_mono {a b : Nat} (h : a ≤ b) : wake a ≤ wake b :=
  Nat.mul_le_mul_right _ (Nat.div_le_div_right (Nat.add_le_add_right h _))

end LedgerNet.Instant
