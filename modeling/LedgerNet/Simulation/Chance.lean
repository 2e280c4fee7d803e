/-!
Numbers that look random and follow from a seed.
-/
namespace LedgerNet.Simulation

structure Chance where
  seed : UInt64 := 0
deriving DecidableEq, Repr, Inhabited

namespace Chance

def stir (z : UInt64) : UInt64 :=
  let z := (z ^^^ (z >>> 30)) * 0xBF58476D1CE4E5B9
  let z := (z ^^^ (z >>> 27)) * 0x94D049BB133111EB
  z ^^^ (z >>> 31)

/-- A number below `bound`, or zero when there is none. -/
def draw (c : Chance) (bound : Nat) : Nat × Chance :=
  let seed := c.seed + 0x9E3779B97F4A7C15
  ((stir seed).toNat % max bound 1, ⟨seed⟩)

theorem draw_lt (c : Chance) {bound : Nat} (h : 0 < bound) : (c.draw bound).1 < bound := by
  have : max bound 1 = bound := by omega
  simp only [draw, this]
  exact Nat.mod_lt _ h

end Chance

end LedgerNet.Simulation
