import LedgerNet.Wire.Mirror

/-!
What the client and a consensus node say to each other: signed envelopes, and the node's immediate answer.
-/
namespace LedgerNet.Wire

open Text

structure SignaturePair where
  publicKey : String
  signature : String
deriving DecidableEq, Repr, Inhabited

namespace SignaturePair

def layout : Json.Layout SignaturePair where
  name := "SignaturePair"
  fields := [
    .required "public_key" Json.string fun v p => { p with publicKey := v },
    .required "signature" Json.string fun v p => { p with signature := v }]
  blank := ⟨"", ""⟩

def toJson (p : SignaturePair) : Json.Value :=
  .obj [("public_key", .str p.publicKey), ("signature", .str p.signature)]

end SignaturePair

/-- A signed transaction for one node. The body is the signed bytes in hexadecimal. -/
structure Envelope where
  node : AccountId
  body : String
  signatures : List SignaturePair
deriving DecidableEq, Repr, Inhabited

namespace Envelope

def layout : Json.Layout Envelope where
  name := "TransactionEnvelope"
  fields := [
    .required "node_account_id" EntityId.reading fun v e => { e with node := v },
    .required "body" Json.string fun v e => { e with body := v },
    .required "signatures" (Json.sequence SignaturePair.layout.read) fun v e => { e with signatures := v }]
  blank := ⟨⟨0, 0, 0⟩, "", []⟩

def toJson (e : Envelope) : Json.Value :=
  .obj [("node_account_id", e.node.toJson), ("body", .str e.body),
    ("signatures", .arr (e.signatures.map SignaturePair.toJson))]

def encode (e : Envelope) : String := e.toJson.compact

def decode (symbols : List Symbol) : Except ClientError Envelope := Wire.decode layout.read symbols

end Envelope

structure NodeAnswer where
  status : LedgerStatus
deriving DecidableEq, Repr, Inhabited

namespace NodeAnswer

def layout : Json.Layout NodeAnswer where
  name := "TransactionResponse"
  fields := [.required "status" LedgerStatus.reading fun v a => { a with status := v }]
  blank := ⟨.unknown⟩

def toJson (a : NodeAnswer) : Json.Value := .obj [("status", a.status.toJson)]

def encode (a : NodeAnswer) : String := a.toJson.compact

def decode (symbols : List Symbol) : Except ClientError NodeAnswer := Wire.decode layout.read symbols

end NodeAnswer

end LedgerNet.Wire
