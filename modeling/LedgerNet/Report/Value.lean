import LedgerNet.ClientError
import LedgerNet.Json.Value
import LedgerNet.Text.Hex
import LedgerNet.Time.Span
import LedgerNet.Time.Timestamp

/-!
How values appear in reports: as JSON, with spans of time in nanoseconds as texts, bytes in hexadecimal, and
failures by name.
-/
namespace LedgerNet

def ErrorKind.name : ErrorKind → String
  | .transportFailure => "TransportFailure"
  | .transientLedgerRejection => "TransientLedgerRejection"
  | .staleNodeIdentity => "StaleNodeIdentity"
  | .terminalLedgerRejection => "TerminalLedgerRejection"
  | .exhaustedRetries => "ExhaustedRetries"
  | .timeout => "Timeout"
  | .invalidInput => "InvalidInput"
  | .codec => "Codec"
  | .closed => "Closed"

def ClientError.name : ClientError → String
  | .invalidEndpoint .. => "InvalidEndpoint"
  | .invalidEntityId _ => "InvalidEntityId"
  | .config _ => "Config"
  | .emptyTopology => "EmptyTopology"
  | .transport .. => "Transport"
  | .transientRejection .. => "TransientRejection"
  | .staleNodeIdentity .. => "StaleNodeIdentity"
  | .rejected .. => "Rejected"
  | .exhaustedRetries .. => "ExhaustedRetries"
  | .requestTimeout .. => "RequestTimeout"
  | .codec _ => "Codec"
  | .signing _ => "Signing"
  | .addressBook _ => "AddressBook"
  | .closed => "Closed"
  | .blockingOnRuntime => "BlockingOnRuntime"

def SubscriptionError.name : SubscriptionError → String
  | .noMirrorNodes => "NoMirrorNodes"
  | .retriesExhausted .. => "RetriesExhausted"
  | .terminal _ => "Terminal"
  | .codec _ => "Codec"

namespace Report

open Json (Value)

def null : Value := .null

def text (s : String) : Value := .str s

def nat (n : Nat) : Value := .int n

def bool (b : Bool) : Value := .bool b

def list (items : List Value) : Value := .arr items

def obj (members : List (String × Value)) : Value := .obj members

def option {α : Type} (f : α → Value) : Option α → Value := .ofOption f

def hex (bytes : Text.Bytes) : Value := .str (Text.Hex.encode bytes)

def span (s : Span) : Value := .str (toString s)

def timestamp (t : Timestamp) : Value := t.toJson

def ok (v : Value) : Value := .obj [("ok", v)]

def status (s : Status) : Value := .obj [("code", .str s.code.name), ("message", .str s.message)]

def errorHead (e : ClientError) (message : String) : List (String × Value) :=
  [("error", .str e.name), ("message", .str message), ("kind", .str e.kind.name),
    ("ledger_status", option (fun s => .str s.name) e.ledgerStatus?)]

mutual

/-- What is reported of an error; exhausted retries also tell of the last failure. -/
def errorFields : ClientError → List (String × Value)
  | .exhaustedRetries attempts nodes last =>
    let e := ClientError.exhaustedRetries attempts nodes last
    errorHead e e.message ++ [("last_error", lastError last)]
  | e => errorHead e e.message

def lastError : Option ClientError → Value
  | none => .null
  | some e => .obj (errorFields e)

end

def error (e : ClientError) : Value := .obj (errorFields e)

def result {α : Type} (f : α → Value) : Except ClientError α → Value
  | .ok a => ok (f a)
  | .error e => error e

def stored {α : Type} (f : α → Value) : Except Json.Fault α → Value
  | .ok a => ok (f a)
  | .error fault => .obj [("error", .str "Json"), ("message", .str fault.message)]

def reply {α : Type} (f : α → Value) : Except Status α → Value
  | .ok a => f a
  | .error s => status s

def subscriptionError (e : SubscriptionError) : Value :=
  .obj [("error", .str e.name), ("message", .str e.message), ("retryable", .bool e.isRetryable)]

end Report

end LedgerNet
