/-!
The fewest decimal digits that read back as a given binary floating-point number. The number is taken as
m · 2^q; on each decimal grid, from one digit to seventeen, its two neighbours are tried against the interval
of reals that round to it, and the first grid with a hit wins; of two hits the nearer. The digits are written in
full or with an exponent.
-/
namespace LedgerNet.Decimal

structure Scaled where
  digits : Nat
  exponent : Int
deriving DecidableEq, Repr

/-- A positive binary number `mantissa · 2^exponent`; `edge` when the gap below it is half the gap above. -/
structure Binary where
  mantissa : Nat
  exponent : Int
  edge : Bool
deriving DecidableEq, Repr

/-- What is taken when both neighbours are equally near. -/
inductive Tie where
  | upper
  | even
deriving DecidableEq, Repr

/-- The chosen one of a number's neighbours `down` and `down + 1` on a grid, given how the midpoint between them
compares with the number. -/
def Tie.pick (tie : Tie) (down : Nat) : Ordering → Nat
  | .lt => down + 1
  | .gt => down
  | .eq =>
    match tie with
    | .upper => down + 1
    | .even => if down % 2 = 0 then down else down + 1

def power (base : Nat) (e : Int) : Nat × Nat :=
  if 0 ≤ e then (base.pow e.toNat, 1) else (1, base.pow (-e).toNat)

def compareScaled (a : Nat) (e : Int) (b : Nat) (q : Int) : Ordering :=
  let (tn, td) := power 10 e
  let (bn, bd) := power 2 q
  compare (a * tn * bd) (b * bn * td)

/-- The greatest `k` with `10^k` at most the number, searched upwards from `k`. -/
def magnitudeFrom (x : Binary) : Nat → Int → Int
  | 0, k => k
  | fuel + 1, k =>
    if compareScaled 1 (k + 1) x.mantissa x.exponent = .gt then k else magnitudeFrom x fuel (k + 1)

/-- The greatest `k` with `10^k` at most the number. -/
def magnitude (x : Binary) : Int := magnitudeFrom x 700 (-330)

/-- Whether a decimal rounds to the number: it lies between the midpoints to its neighbours, which count as
inside when the mantissa is even. -/
def roundsTo (x : Binary) (c : Nat) (e : Int) : Bool :=
  let low := if x.edge then 4 * x.mantissa - 1 else 4 * x.mantissa - 2
  let high := 4 * x.mantissa + 2
  let even := x.mantissa % 2 == 0
  let below := compareScaled c e low (x.exponent - 2)
  let above := compareScaled c e high (x.exponent - 2)
  (below == .gt || (even && below == .eq)) && (above == .lt || (even && above == .eq))

/-- The neighbour of the number on the grid of `10^e` that rounds to it, the nearer one if both do. -/
def onGrid? (tie : Tie) (x : Binary) (e : Int) : Option Scaled :=
  let (tn, td) := power 10 (-e)
  let (bn, bd) := power 2 x.exponent
  let down := x.mantissa * bn * tn / (bd * td)
  let hitDown := down > 0 && roundsTo x down e
  let hitUp := roundsTo x (down + 1) e
  if hitDown && hitUp then
    some ⟨tie.pick down (compareScaled (2 * down + 1) e (2 * x.mantissa) x.exponent), e⟩
  else if hitDown then some ⟨down, e⟩
  else if hitUp then some ⟨down + 1, e⟩
  else none

def shortestFrom (tie : Tie) (x : Binary) (k : Int) : Nat → Nat → Scaled
  | 0, _ => ⟨0, 0⟩
  | fuel + 1, n =>
    match onGrid? tie x (k - n + 1) with
    | some d => d
    | none => shortestFrom tie x k fuel (n + 1)

def shortest (tie : Tie) (x : Binary) : Scaled := shortestFrom tie x (magnitude x) 18 1

def binary? (f : Float) : Option (Bool × Option Binary) :=
  let bits : Nat := f.toBits.toNat
  let negative := bits / Nat.pow 2 63 == 1
  let exponent : Nat := bits / Nat.pow 2 52 % 2048
  let fraction : Nat := bits % Nat.pow 2 52
  if exponent = 2047 then none
  else if exponent = 0 then
    some (negative, if fraction = 0 then none else some ⟨fraction, -1074, false⟩)
  else
    some (negative, some ⟨Nat.pow 2 52 + fraction, (exponent : Int) - 1075, fraction == 0 && exponent > 1⟩)

def positional (d : Scaled) : String :=
  let digits := Nat.toDigits 10 d.digits
  if 0 ≤ d.exponent then String.ofList (digits ++ List.replicate d.exponent.toNat '0')
  else
    let places := (-d.exponent).toNat
    let padded := List.replicate (places + 1 - digits.length) '0' ++ digits
    let whole := padded.take (padded.length - places)
    let part := (padded.drop (padded.length - places)).reverse.dropWhile (· == '0') |>.reverse
    String.ofList (if part.isEmpty then whole else whole ++ '.' :: part)

/-- A number in its fewest digits, written out in full. A tie goes to the upper neighbour. -/
def plain (f : Float) : String :=
  match binary? f with
  | none => if f.isNaN then "NaN" else if f < 0 then "-inf" else "inf"
  | some (negative, body) =>
    (if negative then "-" else "") ++ (match body with | none => "0" | some x => positional (shortest .upper x))

def Scaled.place (d : Scaled) : Int := d.exponent + (Nat.toDigits 10 d.digits).length - 1

/-- Digits with a point after the first, if others follow it, and a signed exponent. -/
def scientific (d : Scaled) : String :=
  let digits := (Nat.toDigits 10 d.digits).reverse.dropWhile (· == '0') |>.reverse
  let pointed := match digits with
    | first :: second :: rest => first :: '.' :: second :: rest
    | short => short
  String.ofList pointed ++ "e" ++ (if d.place < 0 then "-" else "+") ++ toString d.place.natAbs

/-- How numbers are written: which way ties go, and at which places the first digit may stand for a number to be
written out in full. -/
structure Style where
  tie : Tie
  lowest : Int
  highest : Int
deriving DecidableEq, Repr

/-- Digits written out in full, always with a point, if the first stands at such a place, else with an exponent. -/
def Style.text (style : Style) (d : Scaled) : String :=
  if style.lowest ≤ d.place ∧ d.place ≤ style.highest then
    let text := positional d
    if text.contains '.' then text else text ++ ".0"
  else scientific d

/-- A number in its fewest digits, always with a point or an exponent. -/
def pointed (style : Style) (f : Float) : String :=
  match binary? f with
  | none => plain f
  | some (negative, body) =>
    (if negative then "-" else "") ++
      (match body with | none => "0.0" | some x => style.text (shortest style.tie x))

end LedgerNet.Decimal
