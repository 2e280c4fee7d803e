import LedgerNet.Text.Natural

/-!
Reading a decimal as the nearest binary floating-point number. The text may carry a sign, a point and an
exponent, or name an infinity or no number at all.
-/
namespace LedgerNet.Decimal

open Text

/-- A decimal as read: its digits without the point, and the power of ten that scales them. -/
structure Literal where
  negative : Bool
  digits : Nat
  exponent : Int

def readExponent? : List Char → Option Int
  | [] => some 0
  | c :: rest =>
    if c = 'e' ∨ c = 'E' then
      let (negative, digits) : Bool × List Char := match rest with
        | '-' :: more => (true, more)
        | '+' :: more => (false, more)
        | more => (false, more)
      if digits.isEmpty then none
      else (Natural.readDigits 0 digits).map fun n => if negative then -(n : Int) else n
    else none

def readUnsigned? (negative : Bool) (cs : List Char) : Option Literal :=
  let whole := cs.takeWhile Char.isDigit
  let rest := cs.drop whole.length
  let (part, rest) : List Char × List Char := match rest with
    | '.' :: more => (more.takeWhile Char.isDigit, more.dropWhile Char.isDigit)
    | _ => ([], rest)
  if whole.isEmpty && part.isEmpty then none
  else do
    let digits ← Natural.readDigits 0 (whole ++ part)
    let exponent ← readExponent? rest
    return ⟨negative, digits, exponent - part.length⟩

/-- The nearest number to a decimal; one beyond all reach is taken as zero or infinity outright. -/
def Literal.toFloat (l : Literal) : Float :=
  let size := (Nat.toDigits 10 l.digits).length
  let magnitude : Float :=
    if l.digits = 0 then 0.0
    else if l.exponent + size > 400 then 1.0 / 0.0
    else if l.exponent + size < -400 then 0.0
    else if 0 ≤ l.exponent then Float.ofScientific l.digits false l.exponent.toNat
    else Float.ofScientific l.digits true (-l.exponent).toNat
  if l.negative then -magnitude else magnitude

def read? (text : String) : Option Float :=
  let (negative, body) : Bool × List Char := match text.toList with
    | '-' :: rest => (true, rest)
    | '+' :: rest => (false, rest)
    | cs => (false, cs)
  let name := String.ofList (body.map Char.toLower)
  if name = "inf" ∨ name = "infinity" then some (if negative then -(1.0 / 0.0) else 1.0 / 0.0)
  else if name = "nan" then some (0.0 / 0.0)
  else (readUnsigned? negative body).map Literal.toFloat

end LedgerNet.Decimal
