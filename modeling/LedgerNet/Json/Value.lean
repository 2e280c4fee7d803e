/-!
JSON values as they are written: without blanks, or indented by two spaces a level.
-/
namespace LedgerNet.Json

inductive Value where
  | null
  | bool (b : Bool)
  | int (n : Int)
  | str (s : String)
  | arr (items : List Value)
  | obj (members : List (String × Value))
deriving Inhabited

def hexChar (n : Nat) : Char := (Nat.digitChar n)

def escape (c : Char) : List Char :=
  match c with
  | '"' => ['\\', '"']
  | '\\' => ['\\', '\\']
  | '\x08' => ['\\', 'b']
  | '\x0c' => ['\\', 'f']
  | '\n' => ['\\', 'n']
  | '\r' => ['\\', 'r']
  | '\t' => ['\\', 't']
  | c =>
    if c.toNat < 0x20 then ['\\', 'u', '0', '0', hexChar (c.toNat / 16), hexChar (c.toNat % 16)] else [c]

def quote (s : String) : List Char := '"' :: s.toList.flatMap escape ++ ['"']

namespace Value

def chars : Value → List Char
  | .null => ['n', 'u', 'l', 'l']
  | .bool true => ['t', 'r', 'u', 'e']
  | .bool false => ['f', 'a', 'l', 's', 'e']
  | .int n => (toString n).toList
  | .str s => quote s
  | .arr [] => ['[', ']']
  | .arr (v :: vs) => '[' :: v.chars ++ charsItems vs
  | .obj [] => ['\x7b', '\x7d']
  | .obj ((k, v) :: ms) => '\x7b' :: quote k ++ ':' :: v.chars ++ charsMembers ms
where
  charsItems : List Value → List Char
    | [] => [']']
    | v :: vs => ',' :: v.chars ++ charsItems vs
  charsMembers : List (String × Value) → List Char
    | [] => ['\x7d']
    | (k, v) :: ms => ',' :: quote k ++ ':' :: v.chars ++ charsMembers ms

def compact (v : Value) : String := String.ofList v.chars

def indent (level : Nat) : List Char := '\n' :: List.replicate (2 * level) ' '

/-- A value with every item and member on a line of its own. -/
def prettyChars (level : Nat) : Value → List Char
  | .arr [] => ['[', ']']
  | .arr (v :: vs) => '[' :: indent (level + 1) ++ v.prettyChars (level + 1) ++ prettyItems level vs
  | .obj [] => ['\x7b', '\x7d']
  | .obj ((k, v) :: ms) =>
    '\x7b' :: indent (level + 1) ++ quote k ++ ':' :: ' ' :: v.prettyChars (level + 1) ++ prettyMembers level ms
  | .null => ['n', 'u', 'l', 'l']
  | .bool true => ['t', 'r', 'u', 'e']
  | .bool false => ['f', 'a', 'l', 's', 'e']
  | .int n => (toString n).toList
  | .str s => quote s
where
  prettyItems (level : Nat) : List Value → List Char
    | [] => indent level ++ [']']
    | v :: vs => ',' :: indent (level + 1) ++ v.prettyChars (level + 1) ++ prettyItems level vs
  prettyMembers (level : Nat) : List (String × Value) → List Char
    | [] => indent level ++ ['\x7d']
    | (k, v) :: ms =>
      ',' :: indent (level + 1) ++ quote k ++ ':' :: ' ' :: v.prettyChars (level + 1) ++ prettyMembers level ms

def pretty (v : Value) : String := String.ofList (prettyChars 0 v)

def ofOption {α : Type} (f : α → Value) : Option α → Value
  | none => .null
  | some a => f a

end Value

end LedgerNet.Json
