import LedgerNet.CommandLine.Simulator
import LedgerNet.Simulation.Network

/-!
The simulator's two runs, from their settings to the lines that they print. Time is simulated, so transactions are
submitted one after the other however many may be in flight, and a log begins at the start of time.
-/
namespace LedgerNet.Simulation

open CommandLine

structure Finished where
  lines : List String
  failure : Option String := none

def outcomeLabel : ErrorKind → String
  | .transportFailure => "transport_failure"
  | .transientLedgerRejection => "transient_rejection"
  | .staleNodeIdentity => "stale_node_identity"
  | .terminalLedgerRejection => "terminal_rejection"
  | .exhaustedRetries => "exhausted_retries"
  | .timeout => "timeout"
  | .invalidInput => "invalid_input"
  | .codec => "codec"
  | .closed => "closed"

def countLines (common : CommonSettings) (m : Metrics) : List String :=
  if common.metrics then ["", m.exposition] else []

def millionths (rate : Float) : Nat := (rate * 1000000.0).toUInt64.toNat

/-- Nodes that share their faults, each with a seed of its own. -/
def flakyNodes (s : ExecuteSettings) (chance : Chance) : List (Faults × Chance) :=
  let faults : Faults :=
    { dropRate := millionths s.failureRate, busyRate := millionths s.busyRate, latencyMs := s.latencyMs }
  (List.range s.nodes).map fun i => (faults, ⟨Chance.stir (chance.seed + UInt64.ofNat i)⟩)

def signerOf (chance : Chance) : Signer :=
  Signer.ofSeed (((List.range 32).foldl (fun (bytes, (c : Chance)) _ =>
    let (b, c) := c.draw 256
    (UInt8.ofNat b :: bytes, c)) ([], chance)).1)

def countRequest (started finished : Instant) (answer : Option (Except ClientError (Executed Submitted)))
    (m : Metrics) : Metrics :=
  let ticks := (finished - started) * 1024 / 1000000000
  let m := { m with requests := m.requests + 1, latencies := ticks :: m.latencies }
  match answer with
  | some (.ok e) => { m with attempts := m.attempts + e.attempts, outcomes := m.outcomes.add "ok" 1 }
  | some (.error e) => { m with outcomes := m.outcomes.add (outcomeLabel e.kind) 1 }
  | none => m

/-- Submits transactions from the n-th on, and says how many succeeded. -/
def submitAll (signer : Signer) (c : Client) (n succeeded : Nat) : Nat → Nat × Client
  | 0 => (succeeded, c)
  | count + 1 =>
    let t : Transaction := ⟨Text.Utf8.encode s!"simulated transfer #{n}", [signer], none⟩
    let started := c.world.now
    let (answer, c) := c.execute t.request
    let c := c.updateWorld fun w =>
      { w with net := { w.net with metrics := countRequest started w.now answer w.net.metrics } }
    let hit := match answer with
      | some (.ok _) => 1
      | _ => 0
    submitAll signer c (n + 1) (succeeded + hit) count

/-- Submits transactions to a flaky network, which alone is known to the client. -/
def executeRun (s : ExecuteSettings) (config : Config) (chance : Chance) : Finished :=
  let config :=
    { config with network := [], maxAttempts := (s.maxAttempts.map UInt32.ofNat).getD config.maxAttempts }
  if s.nodes = 0 then ⟨[], some "at least one node is required"⟩
  else if s.concurrency = 0 then ⟨[], some "concurrency must be at least 1"⟩
  else match consensusClient config (flakyNodes s chance) with
    | .error e => ⟨[], some s!"failed to build client: {e}"⟩
    | .ok c =>
      let (succeeded, c) := submitAll (signerOf chance) c 0 0 s.requests
      let net := c.close.2.world.net
      ⟨["Execute simulation finished.", s!"  Nodes       : {s.nodes}", s!"  Requests    : {s.requests}",
        s!"  Succeeded   : {succeeded}", s!"  Failed      : {s.requests - succeeded}",
        s!"  Time        : {Span.text net.now}",
        s!"  Channels    : {net.openedCount} opened, {net.closedCount} closed"] ++ countLines s.common net.metrics,
        none⟩

def messageLine (m : TopicMessage) : String :=
  let number := toString m.sequence.toNat
  let gap := String.ofList (List.replicate (4 - number.length) ' ')
  "#" ++ number ++ gap ++ s!"  {m.timestamp}  chunks={m.chunks.toNat}  " ++ Text.Utf8.decodeLossy m.contents

/-- How a subscription ended: without a word if it completed. -/
def subscriptionFailure (timeoutSecs : Nat) : List (Instant × Delivery) → Option String
  | [] => some s!"subscription did not finish within {timeoutSecs}s"
  | (_, .complete) :: _ => none
  | (_, .error e) :: _ => some s!"subscription failed: {e.message}"
  | (_, .next _) :: rest => subscriptionFailure timeoutSecs rest

def messagesOf (items : List (Instant × Delivery)) : List TopicMessage :=
  items.filterMap fun
    | (_, .next m) => some m
    | _ => none

def subscribeRun (s : SubscribeSettings) (config : Config) : Finished :=
  match EntityId.parse s.topic with
  | .error e => ⟨[], some s!"invalid topic id: {e}"⟩
  | .ok topic =>
    let log := TopicLog.generate ⟨topic, s.messages, s.chunkEvery, s.chunks⟩ ⟨0, 0⟩
    match mirrorClient config ⟨log, s.breakAfter, s.breaks, Span.ofMillis s.intervalMs⟩ 1 with
    | .error e => ⟨[], some s!"failed to build client: {e}"⟩
    | .ok c =>
      match c.subscribe { topic, limit := UInt64.ofNat s.limit } {} with
      | (.error e, _) => ⟨[], some s!"failed to subscribe: {e}"⟩
      | (.ok id, c) =>
        let c := (c.rest (Span.ofSeconds s.timeoutSecs)).settled
        let (items, w) := c.world.takeDeliveries id
        let messages := messagesOf items
        let metrics := { w.net.metrics with messages := messages.length }
        ⟨messages.map messageLine ++ ["", "Subscribe simulation finished.", s!"  Topic       : {topic}",
          s!"  Messages    : {messages.length} received of {s.messages}", s!"  Stream items: {log.length}",
          s!"  Breaks      : {metrics.breaks}"] ++ countLines s.common metrics,
          subscriptionFailure s.timeoutSecs items⟩

end LedgerNet.Simulation
