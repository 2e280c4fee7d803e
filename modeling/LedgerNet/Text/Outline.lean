import LedgerNet.Text.Quoted

/-!
Nested values for a reader: records with named fields, wrapped values and lists, on one line or indented.
-/
namespace LedgerNet.Text

inductive Outline where
  | leaf (text : String)
  /-- Named fields. A partial record says that it has more. -/
  | record (name : String) (fields : List (String × Outline)) (isPartial : Bool)
  | wrapped (name : String) (value : Outline)
  | list (items : List Outline)

namespace Outline

def nat (n : Nat) : Outline := .leaf (toString n)

def bool (b : Bool) : Outline := .leaf (toString b)

def quoted (s : String) : Outline := .leaf (Quoted.text s)

def option {α : Type} (f : α → Outline) : Option α → Outline
  | none => .leaf "None"
  | some a => .wrapped "Some" (f a)

mutual

def inline : Outline → String
  | .leaf text => text
  | .record name fields isPartial =>
    let parts := inlineFields fields ++ (if isPartial then [".."] else [])
    if parts.isEmpty then name else name ++ " \x7b " ++ ", ".intercalate parts ++ " \x7d"
  | .wrapped name value => name ++ "(" ++ inline value ++ ")"
  | .list items => "[" ++ ", ".intercalate (inlineItems items) ++ "]"

def inlineFields : List (String × Outline) → List String
  | [] => []
  | (name, value) :: rest => (name ++ ": " ++ inline value) :: inlineFields rest

def inlineItems : List Outline → List String
  | [] => []
  | item :: rest => inline item :: inlineItems rest

end

def margin (level : Nat) : String := String.ofList (List.replicate (4 * level) ' ')

mutual

/-- The outline over several lines, the first of which follows what stands before it. -/
def indented (level : Nat) : Outline → String
  | .leaf text => text
  | .record name fields isPartial =>
    let parts := indentedFields (level + 1) fields ++
      (if isPartial then [margin (level + 1) ++ ".."] else [])
    if parts.isEmpty then name
    else name ++ " \x7b\n" ++ "\n".intercalate parts ++ "\n" ++ margin level ++ "\x7d"
  | .wrapped name value =>
    name ++ "(\n" ++ margin (level + 1) ++ indented (level + 1) value ++ ",\n" ++ margin level ++ ")"
  | .list items =>
    if items.isEmpty then "[]"
    else "[\n" ++ "\n".intercalate (indentedItems (level + 1) items) ++ "\n" ++ margin level ++ "]"

def indentedFields (level : Nat) : List (String × Outline) → List String
  | [] => []
  | (name, value) :: rest =>
    (margin level ++ name ++ ": " ++ indented level value ++ ",") :: indentedFields level rest

def indentedItems (level : Nat) : List Outline → List String
  | [] => []
  | item :: rest => (margin level ++ indented level item ++ ",") :: indentedItems level rest

end

def render (isIndented : Bool) (o : Outline) : String := if isIndented then o.indented 0 else o.inline

end Outline

end LedgerNet.Text
