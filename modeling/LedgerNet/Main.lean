import LedgerNet.Simulation.Runs

/-!
The simulator's command line.
-/
namespace LedgerNet.CommandLine

def usage : String :=
  "In-process ledger network simulator\n\n" ++
  "Usage: ledger-simnet <COMMAND>\n\n" ++
  "Commands:\n" ++
  "  execute    Submit signed transactions to a flaky consensus network\n" ++
  "  subscribe  Stream a topic from a mirror that drops the connection\n" ++
  "  version    Print version information and exit\n" ++
  "  help       Print this message\n"

def versionLine : String := "ledger-simnet 0.1.0"

def complaint : Refusal → String
  | .help | .version | .missingCommand => usage
  | .invalidCommand => "error: unrecognized subcommand"
  | .unknownArgument => "error: unexpected argument"
  | .invalidValue => "error: invalid or missing value"
  | .unreadableValue => "error: value cannot be read"
  | .conflict => "error: an argument cannot be used multiple times"
  | .tooManyValues => "error: unexpected value for a flag"

def refuse (r : Refusal) : IO UInt32 := do
  match r with
  | .help =>
    IO.print usage
    return 0
  | .version =>
    IO.println versionLine
    return 0
  | r =>
    IO.eprintln (complaint r)
    return 2

def loadConfig (common : CommonSettings) : IO (Except String Config) := do
  match common.config with
  | none => return .ok {}
  | some path =>
    let failed (why : String) := s!"failed to load client config from {path}: {why}"
    try
      return (Config.ofText (← IO.FS.readFile path)).mapError fun e => failed e.message
    catch e => return .error (failed (toString e))

def finish (run : Simulation.Finished) : IO UInt32 := do
  for line in run.lines do
    IO.println line
  match run.failure with
  | none => return 0
  | some why =>
    IO.eprintln s!"Error: {why}"
    return 1

def withConfig (common : CommonSettings) (run : Config → IO Simulation.Finished) : IO UInt32 := do
  match ← loadConfig common with
  | .error why => finish ⟨[], some why⟩
  | .ok config => finish (← run config)

/-- Carries out a command line, and answers with the exit code. -/
def runWith (arguments : List String) : IO UInt32 := do
  match Command.read arguments with
  | .error r => refuse r
  | .ok .version =>
    IO.println versionLine
    return 0
  | .ok (.execute s) =>
    withConfig s.common fun config => do
      let seed ← match s.common.seed with
        | some seed => pure seed
        | none => IO.rand 0 1000000000
      return Simulation.executeRun s config ⟨UInt64.ofNat seed⟩
  | .ok (.subscribe s) => withConfig s.common fun config => return Simulation.subscribeRun s config

end LedgerNet.CommandLine

def main (arguments : List String) : IO UInt32 := LedgerNet.CommandLine.runWith arguments
