import LedgerNet.Json.Typed
import LedgerNet.Json.Value

/-!
How a call failed: a code, and whatever the transport said about it.
-/
namespace LedgerNet

inductive StatusCode where
  | ok
  | cancelled
  | unknown
  | invalidArgument
  | deadlineExceeded
  | notFound
  | alreadyExists
  | permissionDenied
  | resourceExhausted
  | failedPrecondition
  | aborted
  | outOfRange
  | unimplemented
  | internal
  | unavailable
  | dataLoss
  | unauthenticated
deriving DecidableEq, Repr, Inhabited

namespace StatusCode

def name : StatusCode → String
  | .ok => "OK"
  | .cancelled => "CANCELLED"
  | .unknown => "UNKNOWN"
  | .invalidArgument => "INVALID_ARGUMENT"
  | .deadlineExceeded => "DEADLINE_EXCEEDED"
  | .notFound => "NOT_FOUND"
  | .alreadyExists => "ALREADY_EXISTS"
  | .permissionDenied => "PERMISSION_DENIED"
  | .resourceExhausted => "RESOURCE_EXHAUSTED"
  | .failedPrecondition => "FAILED_PRECONDITION"
  | .aborted => "ABORTED"
  | .outOfRange => "OUT_OF_RANGE"
  | .unimplemented => "UNIMPLEMENTED"
  | .internal => "INTERNAL"
  | .unavailable => "UNAVAILABLE"
  | .dataLoss => "DATA_LOSS"
  | .unauthenticated => "UNAUTHENTICATED"

def named : List (String × StatusCode) :=
  [.ok, .cancelled, .unknown, .invalidArgument, .deadlineExceeded, .notFound, .alreadyExists,
    .permissionDenied, .resourceExhausted, .failedPrecondition, .aborted, .outOfRange, .unimplemented,
    .internal, .unavailable, .dataLoss, .unauthenticated].map fun c => (c.name, c)

def reading : Json.Reading StatusCode := Json.settledVariant named

end StatusCode

structure Status where
  code : StatusCode
  message : String
deriving DecidableEq, Repr, Inhabited

namespace Status

def unavailable (message : String) : Status := ⟨.unavailable, message⟩

def deadlineExceeded (message : String) : Status := ⟨.deadlineExceeded, message⟩

def internal (message : String) : Status := ⟨.internal, message⟩

def unimplemented (message : String) : Status := ⟨.unimplemented, message⟩

def text (s : Status) : String :=
  if s.message.isEmpty then s.code.name else s!"{s.code.name}: {s.message}"

instance : ToString Status := ⟨text⟩

def layout : Json.Layout Status where
  name := "Status"
  fields := [.required "code" StatusCode.reading fun code s => { s with code },
    .required "message" Json.string fun message s => { s with message }]
  blank := ⟨.ok, ""⟩

def reading : Json.Reading Status := layout.read

end Status

end LedgerNet
