import LedgerNet.Json.Tree
import LedgerNet.Text.Natural

/-!
What a JSON number amounts to: a whole number within 64 bits, or a floating-point number. The latter is the
leading digits that fit 64 bits, rounded once, then scaled by a power of ten with one more rounding.
-/
namespace LedgerNet.Json

open Text

/-- What a number amounts to. `beyond` is larger than any floating-point number. -/
inductive Amount where
  | natural (n : Nat)
  | negative (n : Int)
  | real (f : Float)
  | beyond

namespace Numeral

/-- Appends digits while the number stays within 64 bits; with it, how many digits were taken. -/
def gather (n : Nat) : List Nat → Nat × Nat
  | [] => (n, 0)
  | d :: rest =>
    if n * 10 + d ≤ Natural.max64 then
      let (m, taken) := gather (n * 10 + d) rest
      (m, taken + 1)
    else (n, 0)

/-- Scales a number by a power of ten, in steps of at most 308 places. -/
def scale : Nat → Float → Int → Option Float
  | 0, f, _ => some f
  | fuel + 1, f, e =>
    if e.natAbs ≤ 308 then
      let p := Float.ofScientific 1 false e.natAbs
      if 0 ≤ e then
        let g := f * p
        if g.isInf then none else some g
      else some (f / p)
    else if f == 0.0 then some f
    else if 0 ≤ e then none
    else scale fuel (f / Float.ofScientific 1 false 308) (e + 308)

def real (n : Numeral) : Amount :=
  let sign (f : Float) : Float := if n.negative then -f else f
  let (leading, taken) := gather 0 n.whole
  let dropped : Int := n.whole.length - taken
  let (significand, places) := gather leading (n.fraction.getD [])
  let exponent : Int := dropped - places
  let finish (e : Int) : Amount :=
    match scale 4 significand.toUInt64.toFloat e with
    | some f => .real (sign f)
    | none => .beyond
  match n.exponent with
  | none => finish exponent
  | some (down, digits) =>
    let size : Nat := digits.foldl (fun size d => size * 10 + d) 0
    if size < 0x80000000 then finish (if down then exponent - (size : Int) else exponent + (size : Int))
    else if significand ≠ 0 ∧ !down then .beyond
    else .real (sign 0.0)

/-- What a number amounts to. A number with a point or an exponent is a floating-point number, and so are a
whole number outside 64 bits and a negative zero. -/
def amount (n : Numeral) : Amount :=
  let (whole, taken) := gather 0 n.whole
  if n.fraction.isNone && n.exponent.isNone && taken == n.whole.length then
    if !n.negative then .natural whole
    else if 1 ≤ whole ∧ whole ≤ 0x8000000000000000 then .negative (-whole)
    else n.real
  else n.real

end Numeral

end LedgerNet.Json
