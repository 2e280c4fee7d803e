import LedgerNet.CommandLine.Options

/-!
The commands of the simulator: to submit transactions to a flaky network, to stream a topic from a mirror that
drops the connection, and to print the version.
-/
namespace LedgerNet.CommandLine

open Text

inductive LogFormat where
  | pretty
  | json
deriving DecidableEq, Repr

def LogFormat.name : LogFormat → String
  | .pretty => "Pretty"
  | .json => "Json"

structure CommonSettings where
  config : Option String := none
  logFormat : LogFormat := .pretty
  seed : Option Nat := none
  metrics : Bool := false
deriving Repr

structure ExecuteSettings where
  common : CommonSettings := {}
  nodes : Nat := 6
  requests : Nat := 20
  concurrency : Nat := 4
  failureRate : Float := 0.2
  busyRate : Float := 0.1
  latencyMs : Nat := 20
  maxAttempts : Option Nat := none
deriving Repr

structure SubscribeSettings where
  common : CommonSettings := {}
  topic : String := "0.0.1001"
  messages : Nat := 12
  chunkEvery : Nat := 4
  chunks : Nat := 3
  /-- Items served before the mirror drops the connection. -/
  breakAfter : Nat := 5
  breaks : Nat := 2
  limit : Nat := 0
  intervalMs : Nat := 50
  timeoutSecs : Nat := 60
deriving Repr

inductive Command where
  | execute (s : ExecuteSettings)
  | subscribe (s : SubscribeSettings)
  | version
deriving Repr

def standardOptions (σ : Type) : List (CommandOption σ) :=
  [⟨"help", some 'h', .stop .help⟩, ⟨"version", some 'V', .stop .version⟩]

def valued {σ α : Type} (name : String) (short : Option Char) (read : String → Except Refusal α)
    (set : α → σ → σ) : CommandOption σ :=
  ⟨name, short, .value fun text settings => (read text).map fun a => set a settings⟩

def commonOptions {σ : Type} (update : (CommonSettings → CommonSettings) → σ → σ) : List (CommandOption σ) :=
  [valued "config" (some 'c') path fun v => update fun c => { c with config := some v },
    valued "log-format" none (choice [("pretty", .pretty), ("json", .json)])
      fun v => update fun c => { c with logFormat := v },
    valued "seed" none (natural Natural.max64) fun v => update fun c => { c with seed := some v },
    ⟨"metrics", none, .flag (update fun c => { c with metrics := true })⟩] ++ standardOptions σ

def executeOptions : List (CommandOption ExecuteSettings) :=
  commonOptions (fun f s => { s with common := f s.common }) ++
  [valued "nodes" (some 'n') (natural Natural.max64) fun v s => { s with nodes := v },
    valued "requests" (some 'r') (natural Natural.max64) fun v s => { s with requests := v },
    valued "concurrency" none (natural Natural.max64) fun v s => { s with concurrency := v },
    valued "failure-rate" none rate fun v s => { s with failureRate := v },
    valued "busy-rate" none rate fun v s => { s with busyRate := v },
    valued "latency-ms" none (natural Natural.max64) fun v s => { s with latencyMs := v },
    valued "max-attempts" none (signed Natural.max32) fun v s => { s with maxAttempts := some v }]

def subscribeOptions : List (CommandOption SubscribeSettings) :=
  commonOptions (fun f s => { s with common := f s.common }) ++
  [valued "topic" none .ok fun v s => { s with topic := v },
    valued "messages" (some 'm') (natural Natural.max64) fun v s => { s with messages := v },
    valued "chunk-every" none (natural Natural.max64) fun v s => { s with chunkEvery := v },
    valued "chunks" none (signed Natural.max32) fun v s => { s with chunks := v },
    valued "break-after" none (natural Natural.max64) fun v s => { s with breakAfter := v },
    valued "breaks" none (signed Natural.max32) fun v s => { s with breaks := v },
    valued "limit" none (natural Natural.max64) fun v s => { s with limit := v },
    valued "interval-ms" none (natural Natural.max64) fun v s => { s with intervalMs := v },
    valued "timeout-secs" none (natural Natural.max64) fun v s => { s with timeoutSecs := v }]

def Command.ofName? (name : String) (arguments : List String) : Option (Except Refusal Command) :=
  if name = "execute" then
    some ((readArguments executeOptions arguments { settings := {} }).map fun p => .execute p.settings)
  else if name = "subscribe" then
    some ((readArguments subscribeOptions arguments { settings := {} }).map fun p => .subscribe p.settings)
  else if name = "version" then
    some ((readArguments (standardOptions Unit) arguments { settings := () }).map fun _ => .version)
  else none

def isCommandName (name : String) : Bool := ["execute", "subscribe", "version", "help"].contains name

def readHelp : List String → Refusal
  | [] => .help
  | [name] => if isCommandName name then .help else .invalidCommand
  | _ => .invalidCommand

def Command.read : List String → Except Refusal Command
  | [] => .error .missingCommand
  | argument :: rest =>
    if argument = "help" then .error (readHelp rest)
    else match Command.ofName? argument rest with
      | some result => result
      | none =>
        match Shape.of argument.toList with
        | .divider =>
          match rest with
          | [] => .error .missingCommand
          | name :: _ => .error (if isCommandName name then .unknownArgument else .invalidCommand)
        | .plain => .error .invalidCommand
        | .long .. | .short _ =>
          match readArguments (standardOptions Unit) [argument] { settings := () } with
          | .error refusal => .error refusal
          | .ok _ => .error .invalidCommand

end LedgerNet.CommandLine
