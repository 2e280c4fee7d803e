import LedgerNet.Decimal.Shortest

/-!
The counters of one simulation, and their text for a collector: families in the order of their names, each with
a help line, a type line and its samples.
-/
namespace LedgerNet.Simulation

/-- A counter kept separately for each value of a label, in the order of values. -/
abbrev Labelled := List (String × Nat)

def Labelled.add (value : String) (by' : Nat) : Labelled → Labelled
  | [] => [(value, by')]
  | (v, n) :: rest =>
    if value = v then (v, n + by') :: rest
    else if value < v then (value, by') :: (v, n) :: rest
    else (v, n) :: add value by' rest

def Labelled.count (c : Labelled) (value : String) : Nat := (c.lookup value).getD 0

structure Metrics where
  requests : Nat := 0
  outcomes : Labelled := []
  attempts : Nat := 0
  faults : Labelled := []
  messages : Nat := 0
  served : Nat := 0
  breaks : Nat := 0
  /-- Latencies of requests, in 1024ths of a second, latest first. -/
  latencies : List Nat := []

namespace Metrics

/-- The bounds of the latency histogram in thousandths of a second, and their texts. -/
def bounds : List (Nat × String) :=
  [(5, "0.005"), (10, "0.01"), (25, "0.025"), (50, "0.05"), (100, "0.1"), (250, "0.25"), (500, "0.5"),
    (1000, "1"), (2500, "2.5"), (5000, "5"), (10000, "10")]

def within (m : Metrics) (bound : Nat) : Nat := (m.latencies.filter fun t => t * 1000 ≤ bound * 1024).length

def countText (n : Nat) : String := Decimal.plain (UInt64.ofNat n).toFloat

/-- The sum of all latencies in seconds, added up in the order in which they were observed. -/
def latencySum (m : Metrics) : Float :=
  m.latencies.reverse.foldl (fun sum t => sum + (UInt64.ofNat t).toFloat / 1024.0) 0.0

def nameStart : String := "ledger_simnet_"

def family (name help type : String) (samples : List String) : String :=
  let full := nameStart ++ name
  String.join ([s!"# HELP {full} {help}\n", s!"# TYPE {full} {type}\n"] ++ samples.map (· ++ "\n"))

def counter (name help : String) (n : Nat) : String :=
  family name help "counter" [s!"{nameStart}{name} {countText n}"]

def labelText (value : String) : String :=
  String.join (value.toList.map fun c =>
    match c with
    | '\\' => "\\\\"
    | '\n' => "\\n"
    | '"' => "\\\""
    | c => String.singleton c)

/-- A family by label; it does not show until a value has been counted. -/
def labelled (name help label : String) (c : Labelled) : String :=
  if c.isEmpty then ""
  else family name help "counter" (c.map fun (value, n) =>
    nameStart ++ name ++ "\x7b" ++ label ++ "=\"" ++ labelText value ++ "\"\x7d " ++ countText n)

def histogram (m : Metrics) : String :=
  let name := "request_latency_seconds"
  let full := nameStart ++ name
  let bucket (bound : String) (n : Nat) : String :=
    full ++ "_bucket\x7ble=\"" ++ bound ++ "\"\x7d " ++ countText n
  let total := m.latencies.length
  family name "End-to-end request latency in seconds" "histogram"
    ((bounds.map fun (bound, text) => bucket text (m.within bound)) ++ [bucket "+Inf" total,
      s!"{full}_sum {Decimal.plain m.latencySum}", s!"{full}_count {countText total}"])

def exposition (m : Metrics) : String :=
  String.join [
    counter "attempts_total" "Attempts spent on successful requests" m.attempts,
    labelled "injected_faults_total" "Faults injected by simulated nodes" "fault" m.faults,
    counter "messages_received_total" "Reassembled topic messages delivered" m.messages,
    m.histogram,
    labelled "request_outcomes_total" "Finished requests by outcome" "outcome" m.outcomes,
    counter "requests_total" "Transactions submitted" m.requests,
    counter "stream_breaks_total" "Streams cut short by the mirror" m.breaks,
    counter "stream_items_served_total" "Stream items sent by the mirror" m.served]

end Metrics

end LedgerNet.Simulation
