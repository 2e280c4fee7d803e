import LedgerNet.Text.Utf8

/-!
Bytes written as pairs of lower-case hexadecimal digits. Reading takes either case and names the first fault:
an odd count of digits before any bad digit, then the first bad digit by its place.
-/
namespace LedgerNet.Text.Hex

def digit (n : Nat) : Char :=
  if n < 10 then Char.ofNat (48 + n) else Char.ofNat (87 + n)

def value? (b : UInt8) : Option Nat :=
  let n := b.toNat
  if 48 ≤ n ∧ n ≤ 57 then some (n - 48)
  else if 97 ≤ n ∧ n ≤ 102 then some (n - 87)
  else if 65 ≤ n ∧ n ≤ 70 then some (n - 55)
  else none

def pair (b : UInt8) : List Char := [digit (b.toNat / 16), digit (b.toNat % 16)]

def encode (bytes : Bytes) : String := String.ofList (bytes.flatMap pair)

inductive Fault where
  | oddLength
  | badDigit (byte : UInt8) (place : Nat)
deriving DecidableEq, Repr

/-- Reads an even count of digits, the first of them at `place`. -/
def decodeFrom (place : Nat) : Bytes → Except Fault Bytes
  | high :: low :: rest =>
    match value? high, value? low with
    | none, _ => .error (.badDigit high place)
    | _, none => .error (.badDigit low (place + 1))
    | some h, some l => do
      let more ← decodeFrom (place + 2) rest
      return UInt8.ofNat (h * 16 + l) :: more
  | _ => .ok []

def decodeBytes (digits : Bytes) : Except Fault Bytes :=
  if digits.length % 2 = 1 then .error .oddLength else decodeFrom 0 digits

def decode (text : String) : Except Fault Bytes := decodeBytes (Utf8.encode text)

def decode? (text : String) : Option Bytes := (decode text).toOption

end LedgerNet.Text.Hex
