import LedgerNet.Text.Utf8
import LedgerNet.Decimal.Shortest

/-!
JSON documents as trees that end at their first fault of syntax. Reading never fails: where the text stops
being JSON the tree holds a broken leaf or an unclosed bracket, and everything after it is dropped. A typed
reading that walks the tree from the left therefore meets the faults of a text in the order in which they
stand, be they of syntax or of content.

Strings keep their pieces, since a string that is skipped may hold a lone surrogate or a stray byte, and one
that is used may not.
-/
namespace LedgerNet.Json

open Text

structure Numeral where
  negative : Bool
  whole : List Nat
  fraction : Option (List Nat)
  exponent : Option (Bool × List Nat)
deriving DecidableEq, Repr

/-- A piece of a string: a character, a 16-bit unit given by its number, or a stray byte. -/
inductive Piece where
  | char (c : Char)
  | unit (n : Nat)
  | stray
deriving DecidableEq, Repr

/-- A document, or as much of it as there is before the first fault. `keyless` is an object whose first key
is no string. -/
inductive Tree where
  | null
  | bool (b : Bool)
  | number (n : Numeral)
  | string (pieces : List Piece)
  | array (items : List Tree) (closed : Bool)
  | object (members : List (List Piece × Tree)) (closed : Bool)
  | keyless (key : Tree)
  | broken

/-- The text that pieces spell. Units outside the surrogates stand for themselves, a high and a low surrogate
for one character; a lone surrogate or a stray byte spells nothing. -/
def spell : List Piece → Option (List Char)
  | [] => some []
  | .char c :: rest => (spell rest).map (c :: ·)
  | .stray :: _ => none
  | .unit n :: rest =>
    if n < 0xD800 ∨ 0xDFFF < n then (spell rest).map (Char.ofNat n :: ·)
    else if 0xDC00 ≤ n then none
    else match rest with
      | .unit m :: rest =>
        if 0xDC00 ≤ m ∧ m ≤ 0xDFFF then
          (spell rest).map (Char.ofNat (0x10000 + (n - 0xD800) * 0x400 + (m - 0xDC00)) :: ·)
        else none
      | _ => none

/-- Whether the text holds a whole document, so that it can be skipped. -/
def Tree.whole : Tree → Bool
  | .null | .bool _ | .number _ | .string _ => true
  | .array items closed => wholeItems items && closed
  | .object members closed => wholeMembers members && closed
  | .keyless _ | .broken => false
where
  wholeItems : List Tree → Bool
    | [] => true
    | t :: ts => t.whole && wholeItems ts
  wholeMembers : List (List Piece × Tree) → Bool
    | [] => true
    | (_, t) :: ts => t.whole && wholeMembers ts

def skipBlank : List Symbol → List Symbol
  | .char c :: rest =>
    if c = ' ' ∨ c = '\n' ∨ c = '\t' ∨ c = '\r' then skipBlank rest else .char c :: rest
  | s => s

def expect : List Char → List Symbol → Option (List Symbol)
  | [], s => some s
  | c :: word, .char d :: s => if c = d then expect word s else none
  | _ :: _, _ => none

def takeDigits : List Symbol → List Nat × List Symbol
  | .char c :: rest =>
    if '0' ≤ c ∧ c ≤ '9' then
      let (digits, rest) := takeDigits rest
      ((c.toNat - 48) :: digits, rest)
    else ([], .char c :: rest)
  | s => ([], s)

def readTail (negative : Bool) (whole : List Nat) (s : List Symbol) : Option (Numeral × List Symbol) :=
  let fraction : Option (Option (List Nat) × List Symbol) := match s with
    | .char '.' :: rest =>
      match takeDigits rest with
      | ([], _) => none
      | (digits, rest) => some (some digits, rest)
    | _ => some (none, s)
  fraction.bind fun (fraction, s) =>
    let exponent (rest : List Symbol) : Option (Numeral × List Symbol) :=
      let (down, rest) : Bool × List Symbol := match rest with
        | .char '-' :: rest => (true, rest)
        | .char '+' :: rest => (false, rest)
        | _ => (false, rest)
      match takeDigits rest with
      | ([], _) => none
      | (digits, rest) => some (⟨negative, whole, fraction, some (down, digits)⟩, rest)
    match s with
    | .char 'e' :: rest => exponent rest
    | .char 'E' :: rest => exponent rest
    | _ => some (⟨negative, whole, fraction, none⟩, s)

/-- Reads a number without its sign. A leading zero stands alone. -/
def readNumeral (negative : Bool) (s : List Symbol) : Option (Numeral × List Symbol) :=
  match takeDigits s with
  | ([], _) => none
  | (0 :: _ :: _, _) => none
  | (whole, rest) => readTail negative whole rest

def hexValue? : Symbol → Option Nat
  | .stray => none
  | .char c =>
    if '0' ≤ c ∧ c ≤ '9' then some (c.toNat - 48)
    else if 'a' ≤ c ∧ c ≤ 'f' then some (c.toNat - 87)
    else if 'A' ≤ c ∧ c ≤ 'F' then some (c.toNat - 55)
    else none

def hexUnit? (a b c d : Symbol) : Option Nat := do
  return (((← hexValue? a) * 16 + (← hexValue? b)) * 16 + (← hexValue? c)) * 16 + (← hexValue? d)

def escaped? : Char → Option Char
  | '"' => some '"'
  | '\\' => some '\\'
  | '/' => some '/'
  | 'b' => some '\x08'
  | 'f' => some '\x0c'
  | 'n' => some '\n'
  | 'r' => some '\r'
  | 't' => some '\t'
  | _ => none

def readString : List Symbol → Option (List Piece × List Symbol)
  | [] => none
  | .stray :: rest => (readString rest).map fun (pieces, rest) => (.stray :: pieces, rest)
  | .char '"' :: rest => some ([], rest)
  | .char '\\' :: .char 'u' :: a :: b :: c :: d :: rest =>
    match hexUnit? a b c d with
    | none => none
    | some n => (readString rest).map fun (pieces, rest) => (.unit n :: pieces, rest)
  | .char '\\' :: .char e :: rest =>
    match escaped? e with
    | none => none
    | some c => (readString rest).map fun (pieces, rest) => (.char c :: pieces, rest)
  | .char c :: rest =>
    if c = '\\' ∨ c.toNat < 0x20 then none
    else (readString rest).map fun (pieces, rest) => (.char c :: pieces, rest)

mutual

/-- Reads a value, with what follows it unless there was a fault. `fuel` bounds the depth and the number of
steps; the length of the text always suffices. -/
def readValue : Nat → List Symbol → Tree × Option (List Symbol)
  | 0, _ => (.broken, none)
  | fuel + 1, s =>
    match skipBlank s with
    | .char 'n' :: rest => ofOption (expect ['u', 'l', 'l'] rest) .null
    | .char 't' :: rest => ofOption (expect ['r', 'u', 'e'] rest) (.bool true)
    | .char 'f' :: rest => ofOption (expect ['a', 'l', 's', 'e'] rest) (.bool false)
    | .char '"' :: rest =>
      match readString rest with
      | some (pieces, rest) => (.string pieces, some rest)
      | none => (.broken, none)
    | .char '[' :: rest =>
      match skipBlank rest with
      | .char ']' :: rest => (.array [] true, some rest)
      | rest =>
        let (items, rest) := readItems fuel rest
        (.array items rest.isSome, rest)
    | .char '\x7b' :: rest =>
      match skipBlank rest with
      | .char '\x7d' :: rest => (.object [] true, some rest)
      | .char '"' :: rest =>
        let (members, rest) := readMembers fuel rest
        (.object members rest.isSome, rest)
      | rest => (.keyless (readValue fuel rest).1, none)
    | .char '-' :: rest => ofNumeral (readNumeral true rest)
    | s => ofNumeral (readNumeral false s)
where
  ofOption (rest : Option (List Symbol)) (t : Tree) : Tree × Option (List Symbol) :=
    match rest with
    | some rest => (t, some rest)
    | none => (.broken, none)
  ofNumeral : Option (Numeral × List Symbol) → Tree × Option (List Symbol)
    | some (n, rest) => (.number n, some rest)
    | none => (.broken, none)

def readItems : Nat → List Symbol → List Tree × Option (List Symbol)
  | 0, _ => ([], none)
  | fuel + 1, s =>
    match readValue fuel s with
    | (t, none) => ([t], none)
    | (t, some rest) =>
      match skipBlank rest with
      | .char ',' :: rest =>
        let (ts, rest) := readItems fuel rest
        (t :: ts, rest)
      | .char ']' :: rest => ([t], some rest)
      | _ => ([t], none)

/-- Reads the members of an object up to its closing brace, the first from behind its key's opening quote. -/
def readMembers : Nat → List Symbol → List (List Piece × Tree) × Option (List Symbol)
  | 0, _ => ([], none)
  | fuel + 1, s =>
    match readString s with
    | none => ([], none)
    | some (key, rest) =>
      match skipBlank rest with
      | .char ':' :: rest =>
        match readValue fuel rest with
        | (t, none) => ([(key, t)], none)
        | (t, some rest) =>
          match skipBlank rest with
          | .char ',' :: rest =>
            match skipBlank rest with
            | .char '"' :: rest =>
              let (ts, rest) := readMembers fuel rest
              ((key, t) :: ts, rest)
            | _ => ([(key, t)], none)
          | .char '\x7d' :: rest => ([(key, t)], some rest)
          | _ => ([(key, t)], none)
      | _ => ([(key, .broken)], none)

end

/-- A text read as one document. `clean` when nothing but blanks follows it. -/
structure Document where
  tree : Tree
  clean : Bool

def Document.read (symbols : List Symbol) : Document :=
  let (tree, rest) := readValue (symbols.length + 1) symbols
  ⟨tree, rest.any fun rest => (skipBlank rest).isEmpty⟩

end LedgerNet.Json
