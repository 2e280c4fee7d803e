import LedgerNet.Text.CharClass
import LedgerNet.Text.Hex

/-!
Text and characters in quotes, for a reader who must see what is there: quotes and backslashes are escaped,
and so is every character that would not show or would merge with the one before it.
-/
namespace LedgerNet.Text.Quoted

def hexDigits (n : Nat) : List Char := (Nat.toDigits 16 n)

def escape (quote c : Char) : List Char :=
  if c = '\x00' then ['\\', '0']
  else if c = '\t' then ['\\', 't']
  else if c = '\r' then ['\\', 'r']
  else if c = '\n' then ['\\', 'n']
  else if c = quote ∨ c = '\\' then ['\\', c]
  else if CharClass.isExtending c ∨ !CharClass.isPrintable c then
    ['\\', 'u', '\x7b'] ++ hexDigits c.toNat ++ ['\x7d']
  else [c]

def text (s : String) : String :=
  String.ofList ('"' :: s.toList.flatMap (escape '"') ++ ['"'])

def char (c : Char) : String :=
  String.ofList ('\'' :: escape '\'' c ++ ['\''])

end LedgerNet.Text.Quoted

namespace LedgerNet.Text.Hex

/-- Says what is wrong with a digit string. A bad digit's byte is shown as the character of that number. -/
def Fault.message : Fault → String
  | .oddLength => "Odd number of digits"
  | .badDigit byte place => s!"Invalid character {Quoted.char (Char.ofNat byte.toNat)} at position {place}"

end LedgerNet.Text.Hex
