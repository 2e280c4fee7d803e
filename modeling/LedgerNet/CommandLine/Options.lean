import LedgerNet.Decimal.Reading
import LedgerNet.Decimal.Shortest

/-!
Options on a command line: `--name value`, `--name=value`, `-n value`, `-nvalue`, and flags, of which several short
ones may share a dash.

A value that stands as an argument of its own is looked at only when the next option begins or the line ends, so an
argument that is unknown is reported before a bad value ahead of it. A value must not begin with a dash unless it is
attached or is the dash alone. After `--` there are only plain arguments, and no command here takes any.
-/
namespace LedgerNet.CommandLine

open Text

/-- Why a command line is not carried out; help and version texts count too, for they end the reading. -/
inductive Refusal where
  | help
  | version
  | missingCommand
  | invalidCommand
  | unknownArgument
  | invalidValue
  | unreadableValue
  | conflict
  | tooManyValues
deriving DecidableEq, Repr

/-- What an option does to the settings. -/
inductive Effect (σ : Type) where
  | flag (set : σ → σ)
  | value (set : String → σ → Except Refusal σ)
  | stop (refusal : Refusal)

structure CommandOption (σ : Type) where
  name : String
  short : Option Char := none
  effect : Effect σ

structure Progress (σ : Type) where
  settings : σ
  given : List String := []
  /-- An option that has yet to take effect, and its value once that is there. -/
  pending : Option (CommandOption σ × Option String) := none

namespace Progress

variable {σ : Type}

def give (p : Progress σ) (o : CommandOption σ) (set : σ → Except Refusal σ) : Except Refusal (Progress σ) :=
  if p.given.contains o.name then .error .conflict
  else (set p.settings).map fun settings => { p with settings, given := o.name :: p.given }

def giveValue (p : Progress σ) (o : CommandOption σ) (value : String) : Except Refusal (Progress σ) :=
  match o.effect with
  | .value set => p.give o (set value)
  | .flag _ | .stop _ => .error .tooManyValues

def resolve (p : Progress σ) : Except Refusal (Progress σ) :=
  match p.pending with
  | none => .ok p
  | some (_, none) => .error .invalidValue
  | some (o, some value) => { p with pending := none }.giveValue o value

def meet (p : Progress σ) (o : CommandOption σ) : Except Refusal (Progress σ) := do
  let p ← p.resolve
  match o.effect with
  | .flag set => p.give o fun settings => .ok (set settings)
  | .stop refusal => .error refusal
  | .value _ => return { p with pending := some (o, none) }

def meetValue (p : Progress σ) (o : CommandOption σ) (value : String) : Except Refusal (Progress σ) :=
  match o.effect with
  | .value _ => p.resolve.bind fun p => p.giveValue o value
  | .flag _ | .stop _ => .error .tooManyValues

/-- Meets an argument that is no option: the value that the pending option still lacks. -/
def meetPlain (p : Progress σ) (argument : String) : Except Refusal (Progress σ) :=
  match p.pending with
  | some (o, none) => .ok { p with pending := some (o, some argument) }
  | _ => .error .unknownArgument

/-- Meets options that share a dash; what follows one that takes a value is its value. -/
def meetShort (options : List (CommandOption σ)) : List Char → Progress σ → Except Refusal (Progress σ)
  | [], p => .ok p
  | c :: rest, p =>
    match options.find? (·.short == some c) with
    | none => .error .unknownArgument
    | some o =>
      match o.effect with
      | .flag _ | .stop _ => (p.meet o).bind (meetShort options rest)
      | .value _ =>
        match rest with
        | [] => p.meet o
        | '=' :: value => p.meetValue o (String.ofList value)
        | value => p.meetValue o (String.ofList value)

end Progress

inductive Shape where
  | divider
  | long (name : List Char) (value : Option (List Char))
  | short (letters : List Char)
  | plain

def Shape.of : List Char → Shape
  | ['-', '-'] => .divider
  | '-' :: '-' :: rest =>
    match rest.dropWhile (· != '=') with
    | [] => .long rest none
    | _ :: value => .long (rest.takeWhile (· != '=')) (some value)
  | ['-'] => .plain
  | '-' :: letters => .short letters
  | _ => .plain

variable {σ : Type}

def readArguments (options : List (CommandOption σ)) : List String → Progress σ → Except Refusal (Progress σ)
  | [], p => p.resolve
  | argument :: rest, p =>
    match Shape.of argument.toList with
    | .divider => if rest.isEmpty then p.resolve else .error .unknownArgument
    | .long name value =>
      match options.find? (·.name == String.ofList name) with
      | none => .error .unknownArgument
      | some o =>
        (match value with
          | none => p.meet o
          | some value => p.meetValue o (String.ofList value)).bind (readArguments options rest)
    | .short letters => (p.meetShort options letters).bind (readArguments options rest)
    | .plain => (p.meetPlain argument).bind (readArguments options rest)

def natural (limit : Nat) (text : String) : Except Refusal Nat :=
  match Natural.read? limit text.toList with
  | some n => .ok n
  | none => .error .unreadableValue

/-- A whole number that may be written with a minus sign, but lies between zero and `limit`. -/
def signed (limit : Nat) (text : String) : Except Refusal Nat :=
  match text.toList with
  | '-' :: digits =>
    if digits.isEmpty then .error .unreadableValue
    else match Natural.readDigits 0 digits with
      | some 0 => .ok 0
      | _ => .error .unreadableValue
  | _ => natural limit text

def rate (text : String) : Except Refusal Float :=
  match Decimal.read? text with
  | some r => if 0.0 ≤ r && r ≤ 1.0 then .ok r else .error .unreadableValue
  | none => .error .unreadableValue

def choice {α : Type} (names : List (String × α)) (text : String) : Except Refusal α :=
  match names.lookup text with
  | some a => .ok a
  | none => .error .invalidValue

def path (text : String) : Except Refusal String := if text.isEmpty then .error .invalidValue else .ok text

end LedgerNet.CommandLine
