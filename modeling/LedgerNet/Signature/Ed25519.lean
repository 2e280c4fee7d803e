import LedgerNet.Digest.Sha2

/-!
Ed25519 signatures over the twisted Edwards curve -x² + y² = 1 + d x² y² in the field of 2^255 - 19.

Verification refuses a scalar that is not reduced, recomputes the nonce point without clearing the cofactor,
and compares it with the signature byte by byte.
-/
namespace LedgerNet.Ed25519

open Text

def prime : Nat := Nat.pow 2 255 - 19

/-- The order of the group that the base point generates. -/
def groupOrder : Nat := Nat.pow 2 252 + 27742317777372353535851937790883648493

def powFrom (base acc : Nat) : Nat → Nat → Nat
  | 0, _ => acc
  | fuel + 1, e =>
    if e = 0 then acc
    else powFrom (base * base % prime) (if e % 2 = 1 then acc * base % prime else acc) fuel (e / 2)

def pow (base e : Nat) : Nat := powFrom (base % prime) 1 256 e

def inverse (x : Nat) : Nat := pow x (prime - 2)

def sub (x y : Nat) : Nat := (x + (prime - y % prime)) % prime

def curveD : Nat := sub 0 (121665 * inverse 121666 % prime)

def rootOfMinusOne : Nat := pow 2 ((prime - 1) / 4)

/-- A point in extended coordinates: x = X/Z, y = Y/Z, xy = T/Z. -/
structure Point where
  x : Nat
  y : Nat
  z : Nat
  t : Nat

namespace Point

def zero : Point := ⟨0, 1, 1, 0⟩

def add (p q : Point) : Point :=
  let a := sub p.y p.x * sub q.y q.x % prime
  let b := (p.y + p.x) * (q.y + q.x) % prime
  let c := 2 * p.t * curveD % prime * q.t % prime
  let d := 2 * p.z * q.z % prime
  let e := sub b a
  let f := sub d c
  let g := (d + c) % prime
  let h := (b + a) % prime
  ⟨e * f % prime, g * h % prime, f * g % prime, e * h % prime⟩

def negate (p : Point) : Point := ⟨sub 0 p.x, p.y, p.z, sub 0 p.t⟩

def timesFrom (p acc : Point) : Nat → Nat → Point
  | 0, _ => acc
  | fuel + 1, n =>
    if n = 0 then acc
    else timesFrom (p.add p) (if n % 2 = 1 then acc.add p else acc) fuel (n / 2)

def times (p : Point) (n : Nat) : Point := timesFrom p zero 256 n

end Point

def numberOf : Bytes → Nat
  | [] => 0
  | b :: rest => b.toNat + 256 * numberOf rest

def bytesOf (n : Nat) : Bytes := (List.range 32).map fun place => UInt8.ofNat (n / Nat.pow 256 place)

/-- The bytes of a point: its y, with the parity of x in the top bit. -/
def compress (p : Point) : Bytes :=
  let i := inverse p.z
  let x := p.x * i % prime
  let y := p.y * i % prime
  bytesOf (y + (x % 2) * Nat.pow 2 255)

/-- The even square root of u / v, if there is one. -/
def rootOfRatio? (u v : Nat) : Option Nat :=
  let v3 := v * v % prime * v % prime
  let v7 := v3 * v3 % prime * v % prime
  let r := u * v3 % prime * pow (u * v7 % prime) ((prime - 5) / 8) % prime
  let check := v * (r * r % prime) % prime
  let root : Option Nat :=
    if check = u % prime then some r
    else if check = sub 0 u then some (r * rootOfMinusOne % prime)
    else none
  root.map fun r => if r % 2 = 1 then prime - r else r

def decompress? (bytes : Bytes) : Option Point :=
  let n := numberOf bytes
  let y := n % Nat.pow 2 255 % prime
  let yy := y * y % prime
  (rootOfRatio? (sub yy 1) ((curveD * yy + 1) % prime)).map fun x =>
    let x := if n / Nat.pow 2 255 = 1 then sub 0 x else x
    ⟨x, y, 1, x * y % prime⟩

/-- The point that generates the group: y = 4/5, x even. -/
def base : Point :=
  (decompress? (bytesOf (4 * inverse 5 % prime))).getD Point.zero

/-- The two halves of a secret key's digest: the scalar with its fixed bits, and what nonces are drawn from. -/
def expand (seed : Bytes) : Nat × Bytes :=
  let digest := Sha2.sha512 seed
  let n := numberOf (digest.take 32)
  (n % Nat.pow 2 254 / 8 * 8 + Nat.pow 2 254, digest.drop 32)

def publicKey (seed : Bytes) : Bytes := compress (base.times (expand seed).1)

/-- The scalar that binds a signature to its nonce, key and message. -/
def challenge (nonce key message : Bytes) : Nat :=
  numberOf (Sha2.sha512 (nonce ++ key ++ message)) % groupOrder

def sign (seed message : Bytes) : Bytes :=
  let (scalar, pool) := expand seed
  let nonce := numberOf (Sha2.sha512 (pool ++ message)) % groupOrder
  let point := compress (base.times nonce)
  let k := challenge point (publicKey seed) message
  point ++ bytesOf ((nonce + k * scalar) % groupOrder)

/-- Whether a signature is one of a message under a key. Malformed keys and signatures are simply wrong. -/
def verify (key message signature : Bytes) : Bool :=
  if key.length ≠ 32 ∨ signature.length ≠ 64 then false
  else
    let nonce := signature.take 32
    let s := numberOf (signature.drop 32)
    match decompress? key with
    | none => false
    | some a =>
      if groupOrder ≤ s then false
      else
        let k := challenge nonce key message
        compress ((base.times s).add (a.negate.times k)) == nonce

end LedgerNet.Ed25519
