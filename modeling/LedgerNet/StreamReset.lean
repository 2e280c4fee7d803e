import LedgerNet.Status
import LedgerNet.Text.CharClass

/-!
Stream resets in the words of proxies: `RST_STREAM`, `rst stream`, `Rst-Stream` and so on. The two words stand
as whole words, in either case, with one character between them that is no ASCII letter or digit.

Case is folded as in text at large, where the long s counts as an s and the Kelvin sign as a k.
-/
namespace LedgerNet.StreamReset

open Text

def sameLetter (letter c : Char) : Bool :=
  c == letter || c == letter.toUpper || (letter == 's' && c == '\u017F') || (letter == 'k' && c == '\u212A')

/-- What follows a word of lower-case letters, case aside. -/
def afterWord : List Char → List Char → Option (List Char)
  | [], s => some s
  | letter :: word, c :: s => if sameLetter letter c then afterWord word s else none
  | _ :: _, [] => none

/-- A character that may stand between the two words: no ASCII letter or digit, nor the twin of a letter. -/
def isSeparator (c : Char) : Bool :=
  !(c.isAlphanum || c == '\u017F' || c == '\u212A')

def wordEnds : List Char → Bool
  | [] => true
  | c :: _ => !CharClass.isWord c

/-- Whether a text begins with the two words. -/
def startsHere (s : List Char) : Bool :=
  match afterWord ['r', 's', 't'] s with
  | some (c :: rest) =>
    isSeparator c && (match afterWord ['s', 't', 'r', 'e', 'a', 'm'] rest with
      | some rest => wordEnds rest
      | none => false)
  | _ => false

/-- Whether the two words occur in a text, given whether a word goes on from before it. -/
def occurs (inWord : Bool) : List Char → Bool
  | [] => false
  | c :: rest => (!inWord && startsHere (c :: rest)) || occurs (CharClass.isWord c) rest

def mentioned (message : String) : Bool := occurs false message.toList

end LedgerNet.StreamReset

namespace LedgerNet

/-- An internal failure that is really a reset of the stream beneath. -/
def Status.isStreamReset (s : Status) : Bool :=
  s.code == .internal && StreamReset.mentioned s.message

/-- The failures after which a stream is worth reopening: a topic the mirror has not caught up with, a mirror
in distress, or a reset. -/
def Status.isStreamRetryable (s : Status) : Bool :=
  s.code == .notFound || s.code == .unavailable || s.code == .resourceExhausted || s.isStreamReset

end LedgerNet
