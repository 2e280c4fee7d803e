/-!
UTF-8 as a stream of symbols. Bytes that belong to no well-formed character are kept as strays, one for
each longest broken start, so a reader of the stream can tell text from noise without giving up early.
-/
namespace LedgerNet.Text

abbrev Bytes := List UInt8

inductive Symbol where
  | char (c : Char)
  | stray
deriving DecidableEq, Repr, Inhabited

namespace Symbol

def ofString (s : String) : List Symbol := s.toList.map .char

def text? : List Symbol → Option (List Char)
  | [] => some []
  | .char c :: rest => (text? rest).map (c :: ·)
  | .stray :: _ => none

/-- The text a stream spells, each stray shown as U+FFFD. -/
def lossy (symbols : List Symbol) : String :=
  String.ofList (symbols.map fun
    | .char c => c
    | .stray => '\uFFFD')

theorem text?_map_char (cs : List Char) : text? (cs.map .char) = some cs := by
  induction cs with
  | nil => rfl
  | cons c cs ih => simp [text?, ih]

end Symbol

namespace Utf8

/-- A character that has begun: its value so far, the bytes still owed, and the least and greatest byte
that may come next. -/
structure Begun where
  value : Nat
  owed : Nat
  low : Nat
  high : Nat

def start (b : Nat) : List Symbol × Option Begun :=
  if b < 0x80 then ([.char (Char.ofNat b)], none)
  else if 0xC2 ≤ b ∧ b ≤ 0xDF then ([], some ⟨b - 0xC0, 1, 0x80, 0xBF⟩)
  else if b = 0xE0 then ([], some ⟨0, 2, 0xA0, 0xBF⟩)
  else if b = 0xED then ([], some ⟨0xD, 2, 0x80, 0x9F⟩)
  else if 0xE1 ≤ b ∧ b ≤ 0xEF then ([], some ⟨b - 0xE0, 2, 0x80, 0xBF⟩)
  else if b = 0xF0 then ([], some ⟨0, 3, 0x90, 0xBF⟩)
  else if 0xF1 ≤ b ∧ b ≤ 0xF3 then ([], some ⟨b - 0xF0, 3, 0x80, 0xBF⟩)
  else if b = 0xF4 then ([], some ⟨4, 3, 0x80, 0x8F⟩)
  else ([.stray], none)

/-- Reads one byte. A byte that cannot continue the begun character leaves a stray and starts anew. -/
def step (begun : Option Begun) (b : Nat) : List Symbol × Option Begun :=
  match begun with
  | none => start b
  | some p =>
    if p.low ≤ b ∧ b ≤ p.high then
      let value := p.value * 64 + (b - 0x80)
      if p.owed = 1 then ([.char (Char.ofNat value)], none)
      else ([], some ⟨value, p.owed - 1, 0x80, 0xBF⟩)
    else
      let (symbols, next) := start b
      (.stray :: symbols, next)

def decodeFrom (begun : Option Begun) : Bytes → List Symbol
  | [] => if begun.isSome then [.stray] else []
  | b :: rest =>
    let (symbols, next) := step begun b.toNat
    symbols ++ decodeFrom next rest

def decode (bytes : Bytes) : List Symbol := decodeFrom none bytes

def encode (s : String) : Bytes := s.toUTF8.toList

/-- The text of bytes, each broken start shown as U+FFFD. -/
def decodeLossy (bytes : Bytes) : String := Symbol.lossy (decode bytes)

def decode? (bytes : Bytes) : Option String := (Symbol.text? (decode bytes)).map String.ofList

end Utf8

end LedgerNet.Text
