/-!
Texts cut at a separator.
-/
namespace LedgerNet.Text

def cut (sep : Char) : List Char → Option (List Char × List Char)
  | [] => none
  | c :: rest =>
    if c = sep then some ([], rest)
    else (cut sep rest).map fun (before, after) => (c :: before, after)

/-- A text in pieces between separators; there is always at least one piece. -/
def pieces (sep : Char) : List Char → List (List Char)
  | [] => [[]]
  | c :: rest =>
    if c = sep then [] :: pieces sep rest
    else match pieces sep rest with
      | piece :: more => (c :: piece) :: more
      | [] => [[c]]

def dropStart : List Char → List Char → Option (List Char)
  | [], s => some s
  | c :: start, d :: s => if c = d then dropStart start s else none
  | _ :: _, [] => none

end LedgerNet.Text
