/-!
Natural numbers in decimal: reading them within a limit, and writing them in a fixed width.
-/
namespace LedgerNet.Text.Natural

def digit? (c : Char) : Option Nat :=
  if '0' ≤ c ∧ c ≤ '9' then some (c.toNat - 48) else none

def readDigits (n : Nat) : List Char → Option Nat
  | [] => some n
  | c :: rest => (digit? c).bind fun d => readDigits (n * 10 + d) rest

/-- Reads digits, with at most one plus sign in front, as a number of at most `limit`. -/
def read? (limit : Nat) (text : List Char) : Option Nat :=
  let digits := match text with
    | '+' :: rest => rest
    | _ => text
  if digits.isEmpty then none
  else (readDigits 0 digits).filter (· ≤ limit)

def padded (width n : Nat) : String :=
  let digits := Nat.toDigits 10 n
  String.ofList (List.replicate (width - digits.length) '0' ++ digits)

def max16 : Nat := 0xFFFF

def max32 : Nat := 0xFFFFFFFF

def max64 : Nat := 0xFFFFFFFFFFFFFFFF

end LedgerNet.Text.Natural
