import LedgerNet.Request.Pending

/-!
Requests that can be run against a network, and the submission of a signed transaction as one of them.

A request is encoded anew for each node: a transaction names the node within the bytes that are signed, so a
signature for one node is useless at another.
-/
namespace LedgerNet

open Text

structure Request (α : Type) where
  method : String
  /-- The nodes on which the caller insists, if any. -/
  nodeIds : Option (List AccountId)
  encode : AccountId → Except ClientError String
  status : String → Except ClientError LedgerStatus
  value : String → AccountId → Except ClientError α
  classify : LedgerStatus → Outcome := LedgerStatus.classify

namespace Request

variable {α β : Type}

def isPinned (r : Request α) : Bool := r.nodeIds.any (!·.isEmpty)

def map (f : α → β) (r : Request α) : Request β :=
  { method := r.method, nodeIds := r.nodeIds, encode := r.encode, status := r.status,
    value := fun response node => (r.value response node).map f, classify := r.classify }

end Request

def answerStatus (response : String) : Except ClientError LedgerStatus :=
  (Wire.NodeAnswer.decode (Symbol.ofString response)).map (·.status)

structure Signer where
  publicKey : Bytes
  sign : Bytes → Bytes

namespace Signer

def ofSeed (seed : Bytes) : Signer := ⟨Ed25519.publicKey seed, Ed25519.sign seed⟩

def trimmed (s : String) : String :=
  String.ofList ((s.toList.dropWhile CharClass.isBlank).reverse.dropWhile CharClass.isBlank).reverse

def ofHex (secret : String) : Except ClientError Signer :=
  match Hex.decode? (trimmed secret) with
  | none => .error (.signing "secret key is not valid hex")
  | some seed =>
    if seed.length = 32 then .ok (ofSeed seed) else .error (.signing "secret key must be 32 bytes")

end Signer

def submitMethod : String := "/ledger.Consensus/submitTransaction"

/-- What a successful submission gives: the node that took the transaction, and the hash of the envelope. -/
structure Submitted where
  node : AccountId
  hash : String
deriving DecidableEq, Repr, Inhabited

structure Transaction where
  body : Bytes
  signers : List Signer
  nodeIds : Option (List AccountId)

namespace Transaction

/-- The bytes that are signed for a node: the node's account, then the body. -/
def signedBytes (t : Transaction) (node : AccountId) : Bytes := node.toBytes ++ t.body

def envelope (t : Transaction) (node : AccountId) : Wire.Envelope :=
  let signed := t.signedBytes node
  ⟨node, Hex.encode signed, t.signers.map fun s => ⟨Hex.encode s.publicKey, Hex.encode (s.sign signed)⟩⟩

def payload (t : Transaction) (node : AccountId) : String := (t.envelope node).encode

/-- The envelope for a node, if anyone signs. -/
def encode (t : Transaction) (node : AccountId) : Except ClientError String :=
  if t.signers.isEmpty then .error (.signing "transaction has no signatures") else .ok (t.payload node)

def hash (t : Transaction) (node : AccountId) : String :=
  Hex.encode (Sha2.sha384 (Utf8.encode (t.payload node)))

def request (t : Transaction) : Request Submitted where
  method := submitMethod
  nodeIds := t.nodeIds
  encode := t.encode
  status := answerStatus
  value _ node := .ok ⟨node, t.hash node⟩

end Transaction

end LedgerNet
