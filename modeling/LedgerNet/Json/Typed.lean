import LedgerNet.Json.Amount
import LedgerNet.Text.Quoted

/-!
Typed reading of JSON trees. Faults are noticed from left to right: a record's repeated field when its second
key is met, a missing field only when the record closes. A record may be written as an object or as an array
of its fields in order.
-/
namespace LedgerNet.Json

open Text

inductive Found where
  | integer (n : Int)
  | real (f : Float)
  | bool (b : Bool)
  | string (s : String)
  | null
  | map
  | sequence

inductive Fault where
  | malformed
  | wrongType (found : Found) (wanted : String)
  | wrongValue (found : Found) (wanted : String)
  | wrongLength (length : Nat) (wanted : String)
  | missingField (name : String)
  | repeatedField (name : String)
  | unknownVariant (name : String) (variants : List String)
  | refused (why : String)

/-- Numbers are named in full down to a hundred-thousandth and up to sixteen digits before the point; of two equally
near texts the even one is taken. -/
def Found.style : Decimal.Style := ⟨.even, -5, 15⟩

def Found.describe : Found → String
  | .integer n => s!"integer `{n}`"
  | .real f => s!"floating point `{Decimal.pointed Found.style f}`"
  | .bool b => s!"boolean `{b}`"
  | .string s => s!"string {Quoted.text s}"
  | .null => "null"
  | .map => "map"
  | .sequence => "sequence"

def describeVariants : List String → String
  | [] => "there are no variants"
  | [a] => s!"expected `{a}`"
  | [a, b] => s!"expected `{a}` or `{b}`"
  | names => "expected one of " ++ ", ".intercalate (names.map fun a => s!"`{a}`")

def Fault.message : Fault → String
  | .malformed => "malformed JSON"
  | .wrongType found wanted => s!"invalid type: {found.describe}, expected {wanted}"
  | .wrongValue found wanted => s!"invalid value: {found.describe}, expected {wanted}"
  | .wrongLength length wanted => s!"invalid length {length}, expected {wanted}"
  | .missingField name => s!"missing field `{name}`"
  | .repeatedField name => s!"duplicate field `{name}`"
  | .unknownVariant name variants => s!"unknown variant `{name}`, {describeVariants variants}"
  | .refused why => why

abbrev Reading (α : Type) := Tree → Except Fault α

/-- What a tree is, to be named in a complaint. -/
def Tree.found : Reading Found
  | .null => .ok .null
  | .bool b => .ok (.bool b)
  | .number n =>
    match n.amount with
    | .natural n => .ok (.integer n)
    | .negative n => .ok (.integer n)
    | .real f => .ok (.real f)
    | .beyond => .error .malformed
  | .string pieces =>
    match spell pieces with
    | some cs => .ok (.string (String.ofList cs))
    | none => .error .malformed
  | .array _ _ => .ok .sequence
  | .object _ _ | .keyless _ => .ok .map
  | .broken => .error .malformed

def Tree.mismatch {α : Type} (t : Tree) (wanted : String) : Except Fault α := do
  throw (.wrongType (← t.found) wanted)

def natural (limit : Nat) (type : String) : Reading Nat
  | .number n =>
    match n.amount with
    | .natural k => if k ≤ limit then .ok k else .error (.wrongValue (.integer k) type)
    | .negative k => .error (.wrongValue (.integer k) type)
    | .real f => .error (.wrongType (.real f) type)
    | .beyond => .error .malformed
  | t => t.mismatch type

def word32 : Reading Nat := natural Natural.max32 "u32"

def word64 : Reading Nat := natural Natural.max64 "u64"

def size : Reading Nat := natural Natural.max64 "usize"

def integer64 : Reading Int
  | .number n =>
    match n.amount with
    | .natural k => if k < 0x8000000000000000 then .ok k else .error (.wrongValue (.integer k) "i64")
    | .negative k => .ok k
    | .real f => .error (.wrongType (.real f) "i64")
    | .beyond => .error .malformed
  | t => t.mismatch "i64"

def boolean : Reading Bool
  | .bool b => .ok b
  | t => t.mismatch "a boolean"

def string : Reading String
  | .string pieces =>
    match spell pieces with
    | some cs => .ok (String.ofList cs)
    | none => .error .malformed
  | t => t.mismatch "a string"

/-- A text in a form of its own; `parse` refuses with the words of the complaint. -/
def textual {α : Type} (parse : String → Except String α) : Reading α := fun t => do
  match parse (← string t) with
  | .ok a => return a
  | .error why => throw (.refused why)

def optional {α : Type} (read : Reading α) : Reading (Option α)
  | .null => .ok none
  | t => (read t).map some

def sequence {α : Type} (read : Reading α) : Reading (List α)
  | .array items closed => do
    let values ← items.mapM read
    if closed then return values else throw .malformed
  | t => t.mismatch "a sequence"

/-- A map, its entries in the order in which they stand, repeated keys included. -/
def entries {κ α : Type} (key : String → Except String κ) (read : Reading α) : Reading (List (κ × α))
  | .object members closed => do
    let values ← members.mapM fun (name, t) => do
      let k ← textual key (.string name)
      return (k, ← read t)
    if closed then return values else throw .malformed
  | .keyless _ => .error .malformed
  | t => t.mismatch "a map"

def variantNamed {α : Type} (variants : List (String × α)) (pieces : List Piece) : Except Fault α :=
  match spell pieces with
  | none => .error .malformed
  | some cs =>
    let name := String.ofList cs
    match variants.lookup name with
    | some a => .ok a
    | none => .error (.unknownVariant name (variants.map (·.1)))

/-- One of some named variants: its name, or an object that maps its name to null. -/
def variant {α : Type} (variants : List (String × α)) : Reading α
  | .string pieces => variantNamed variants pieces
  | .keyless key => key.mismatch "variant identifier"
  | .object ((name, t) :: more) closed => do
    let a ← variantNamed variants name
    match t with
    | .null => if more.isEmpty && closed then return a else throw .malformed
    | t => t.mismatch "unit"
  | _ => .error .malformed

/-- One of some named variants in a value that is known to be well-formed, so that nothing but its kind can be
wrong with it. -/
def settledVariant {α : Type} (variants : List (String × α)) : Reading α
  | .string pieces => variantNamed variants pieces
  | .object [(name, t)] _ => do
    let a ← variantNamed variants name
    match t with
    | .null => return a
    | t => t.mismatch "unit"
  | .object .. => .error (.wrongValue .map "map with a single key")
  | t => t.mismatch "string or map"

/-- A field of a record: how its value is read into the record, and whether it may be left out. -/
structure Field (α : Type) where
  name : String
  read : Tree → α → Except Fault α
  optional : Bool

def Field.required {α β : Type} (name : String) (read : Reading β) (set : β → α → α) : Field α :=
  ⟨name, fun t a => (read t).map (set · a), false⟩

/-- A field that keeps its blank value when it is left out. -/
def Field.defaulted {α β : Type} (name : String) (read : Reading β) (set : β → α → α) : Field α :=
  ⟨name, fun t a => (read t).map (set · a), true⟩

/-- A record's name and fields in order, and the record before any field is read. The blank value of a
required field never survives. -/
structure Layout (α : Type) where
  name : String
  fields : List (Field α)
  blank : α

namespace Layout

variable {α : Type}

/-- Reads one member of an object into the record, given the names already met. -/
def member (fields : List (Field α)) (seen : List String) (record : α) (name : List Piece) (t : Tree) :
    Except Fault (List String × α) :=
  match spell name with
  | none => .error .malformed
  | some cs =>
    match fields.find? (·.name == String.ofList cs) with
    | none => if t.whole then .ok (seen, record) else .error .malformed
    | some field =>
      if seen.contains field.name then .error (.repeatedField field.name)
      else do
        let record ← field.read t record
        return (field.name :: seen, record)

def members (fields : List (Field α)) (seen : List String) (record : α) :
    List (List Piece × Tree) → Except Fault (List String × α)
  | [] => .ok (seen, record)
  | (name, t) :: rest => do
    let (seen, record) ← member fields seen record name t
    members fields seen record rest

/-- What an array of too few items should have been. -/
def shape (layout : Layout α) : String :=
  let count := layout.fields.length
  s!"struct {layout.name} with {count} " ++ if count = 1 then "element" else "elements"

/-- Reads the items of an array into the fields in order, the first of them at `place`. -/
def items (shape : String) (closed : Bool) (place : Nat) (record : α) :
    List (Field α) → List Tree → Except Fault α
  | [], [] => if closed then .ok record else .error .malformed
  | [], _ :: _ => .error .malformed
  | field :: fields, [] =>
    if !closed then .error .malformed
    else if field.optional then items shape closed (place + 1) record fields []
    else .error (.wrongLength place shape)
  | field :: fields, t :: ts => do
    let record ← field.read t record
    items shape closed (place + 1) record fields ts

def missing? (fields : List (Field α)) (seen : List String) : Option (Field α) :=
  fields.find? fun field => !field.optional && !seen.contains field.name

def read (layout : Layout α) : Reading α
  | .object pairs closed => do
    let (seen, record) ← members layout.fields [] layout.blank pairs
    if !closed then throw .malformed
    match missing? layout.fields seen with
    | some field => throw (.missingField field.name)
    | none => return record
  | .array trees closed => items layout.shape closed 0 layout.blank layout.fields trees
  | .keyless _ => .error .malformed
  | t => t.mismatch s!"struct {layout.name}"

end Layout

def readSymbols {α : Type} (read : Reading α) (symbols : List Symbol) : Except Fault α := do
  let document := Document.read symbols
  let value ← read document.tree
  if document.clean then return value else throw .malformed

def readText {α : Type} (read : Reading α) (text : String) : Except Fault α :=
  readSymbols read (Symbol.ofString text)

def readBytes {α : Type} (read : Reading α) (bytes : Bytes) : Except Fault α :=
  readSymbols read (Utf8.decode bytes)

end LedgerNet.Json
