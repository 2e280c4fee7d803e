import LedgerNet.Config
import LedgerNet.Digest.Sha2
import LedgerNet.Network.LedgerId
import LedgerNet.Text.Hex

/-!
The network's own record of its consensus nodes: accounts, endpoints, and the hashes of their certificates.
-/
namespace LedgerNet

open Text

def certificateHash (certificate : Bytes) : String := Hex.encode (Sha2.sha384 certificate)

structure AddressBookEntry where
  account : AccountId
  endpoints : List Endpoint
  certificateHash : Option String := none
  description : String := ""
deriving DecidableEq, Repr, Inhabited

namespace AddressBookEntry

def layout : Json.Layout AddressBookEntry where
  name := "AddressBookEntry"
  fields := [
    .required "node_account_id" EntityId.reading fun v e => { e with account := v },
    .required "endpoints" (Json.sequence Endpoint.reading) fun v e => { e with endpoints := v },
    .defaulted "certificate_hash" (Json.optional Json.string) fun v e => { e with certificateHash := v },
    .defaulted "description" Json.string fun v e => { e with description := v }]
  blank := { account := ⟨0, 0, 0⟩, endpoints := [] }

def reading : Json.Reading AddressBookEntry := layout.read

/-- The entry as it is stored; an absent hash is left out. -/
def toJson (e : AddressBookEntry) : Json.Value :=
  .obj ([("node_account_id", e.account.toJson), ("endpoints", .arr (e.endpoints.map Endpoint.toJson))]
    ++ (match e.certificateHash with | some h => [("certificate_hash", .str h)] | none => [])
    ++ [("description", .str e.description)])

def hasHash (e : AddressBookEntry) : Bool := e.certificateHash.any (!·.isEmpty)

/-- Fills a missing hash from the entry that this one replaces: a freshly fetched book may leave out what was
known. -/
def inherit (e previous : AddressBookEntry) : AddressBookEntry :=
  if !e.hasHash && previous.hasHash then { e with certificateHash := previous.certificateHash } else e

end AddressBookEntry

structure AddressBook where
  nodes : List AddressBookEntry
deriving DecidableEq, Repr, Inhabited

namespace AddressBook

def layout : Json.Layout AddressBook where
  name := "AddressBook"
  fields := [.required "nodes" (Json.sequence AddressBookEntry.reading) fun v b => { b with nodes := v }]
  blank := ⟨[]⟩

def toJson (b : AddressBook) : Json.Value := .obj [("nodes", .arr (b.nodes.map AddressBookEntry.toJson))]

def ofSymbols (symbols : List Symbol) : Except ClientError AddressBook :=
  (Json.readSymbols layout.read symbols).mapError fun fault => .addressBook fault.message

def ofText (text : String) : Except ClientError AddressBook := ofSymbols (Symbol.ofString text)

def get? (b : AddressBook) (account : AccountId) : Option AddressBookEntry :=
  b.nodes.find? (·.account == account)

def onConsensusPort (e : Endpoint) : Bool := e.port? == some plainPort || e.port? == some tlsPort

/-- The endpoints under which an entry's node is entered in a network: those on consensus ports, moved to the
plain one, or all of them if there are none. -/
def networkEndpoints (e : AddressBookEntry) : List Endpoint :=
  let consensus := e.endpoints.filter onConsensusPort
  if consensus.isEmpty then e.endpoints else consensus.map Endpoint.toInsecure

def toNetwork (b : AddressBook) : EndpointMap AccountId :=
  EndpointMap.ofPairs (b.nodes.flatMap fun e => (networkEndpoints e).map fun endpoint => (endpoint, e.account))

/-- The book that comes with the library for a ledger. Public ledgers change their nodes too often for one. -/
def bundled : LedgerId → Option AddressBook
  | .local => some ⟨[{
      account := EntityId.ofNum 3
      endpoints := [.remote "127.0.0.1" plainPort false]
      description := "local development node" }]⟩
  | _ => none

end AddressBook

end LedgerNet
