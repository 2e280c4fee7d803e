import LedgerNet.Json.Typed
import LedgerNet.Json.Value
import LedgerNet.Text.Split

/-!
Where a node is reached: `host:port` on the network, or `in-process:name` for a service of the same process.

A switch of transport security moves only the well-known consensus ports; a node on any other port stays
where its operator put it. The address alone is what channels are keyed by; the stored form also keeps an
explicit demand for TLS, written `tls://` in front.
-/
namespace LedgerNet

open Text

def plainPort : UInt16 := 50211

def tlsPort : UInt16 := 50212

/-- The mirror port for TLS. Mirrors have no well-known plain port. -/
def mirrorTlsPort : UInt16 := 443

/-- An address of a node. `secure` demands TLS on a port that would not imply it. -/
inductive Endpoint where
  | remote (host : String) (port : UInt16) (secure : Bool)
  | inProcess (name : String)
deriving DecidableEq, Repr, Inhabited

namespace Endpoint

def scheme : String := "in-process"

/-- What marks a stored address that demands TLS. -/
def securedMark : String := "tls://"

inductive Fault where
  | noSeparator
  | emptyName
  | emptyHost
  | emptyPort
  | manySeparators
  | badPort
deriving DecidableEq, Repr

def Fault.reason : Fault → String
  | .noSeparator => "expected host:port or in-process:name"
  | .emptyName => "in-process name is empty"
  | .emptyHost => "host is empty"
  | .emptyPort => "port is empty"
  | .manySeparators => "too many `:` separators"
  | .badPort => "port is not a number in 0..=65535"

def parse (input : String) : Except Fault Endpoint :=
  match cut ':' input.toList with
  | none => .error .noSeparator
  | some (left, right) =>
    if left = scheme.toList then
      if right.isEmpty then .error .emptyName else .ok (.inProcess (String.ofList right))
    else if left.isEmpty then .error .emptyHost
    else if right.isEmpty then .error .emptyPort
    else if right.contains ':' then .error .manySeparators
    else match Natural.read? Natural.max16 right with
      | none => .error .badPort
      | some port => .ok (.remote (String.ofList left) (UInt16.ofNat port) false)

/-- Demands TLS. An address in the same process never uses it. -/
def secured : Endpoint → Endpoint
  | .remote host port _ => .remote host port true
  | e => e

def host? : Endpoint → Option String
  | .remote host _ _ => some host
  | .inProcess _ => none

def port? : Endpoint → Option UInt16
  | .remote _ port _ => some port
  | .inProcess _ => none

def isInProcess : Endpoint → Bool
  | .remote .. => false
  | .inProcess _ => true

/-- Whether channels to the address use TLS: on demand, or by its port. -/
def isSecure : Endpoint → Bool
  | .remote _ port secure => secure || port == tlsPort || port == mirrorTlsPort
  | .inProcess _ => false

/-- Moves the plain consensus port to its TLS twin. -/
def toSecure : Endpoint → Endpoint
  | .remote host port secure => .remote host (if port = plainPort then tlsPort else port) secure
  | e => e

/-- Moves the TLS consensus port to its plain twin, where a demand for TLS lapses. -/
def toInsecure : Endpoint → Endpoint
  | .remote host port secure =>
    if port = tlsPort then .remote host plainPort false else .remote host port secure
  | e => e

def withSecurity (e : Endpoint) (secure : Bool) : Endpoint :=
  if secure then e.toSecure else e.toInsecure

def text : Endpoint → String
  | .remote host port _ => s!"{host}:{port.toNat}"
  | .inProcess name => s!"{scheme}:{name}"

instance : ToString Endpoint := ⟨text⟩

def stored : Endpoint → String
  | .remote host port true => securedMark ++ text (.remote host port true)
  | e => e.text

/-- What is said of a text that is no address. -/
def complaint (input : String) (fault : Fault) : String := s!"invalid endpoint `{input}`: {fault.reason}"

def ofStored (s : String) : Except String Endpoint :=
  match dropStart securedMark.toList s.toList with
  | some address =>
    let address := String.ofList address
    match parse address with
    | .ok e => .ok e.secured
    | .error fault => .error (complaint address fault)
  | none =>
    match parse s with
    | .ok e => .ok e
    | .error fault => .error (complaint s fault)

def reading : Json.Reading Endpoint := Json.textual ofStored

def toJson (e : Endpoint) : Json.Value := .str e.stored

/-- Order: network addresses by host, port and demand for TLS, then those of the same process by name. -/
def order : Endpoint → Endpoint → Ordering
  | .remote h p s, .remote h' p' s' =>
    (compareOfLessAndEq h h').then ((compare p.toNat p'.toNat).then (compare s.toNat s'.toNat))
  | .remote .., .inProcess _ => .lt
  | .inProcess _, .remote .. => .gt
  | .inProcess n, .inProcess n' => compareOfLessAndEq n n'

end Endpoint

end LedgerNet
