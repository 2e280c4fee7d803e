import LedgerNet.Client
import LedgerNet.Text.Outline

/-!
What is shown of the library's objects to someone who inspects them. Secrets and callbacks are never shown, only
that there are some.
-/
namespace LedgerNet

open Text

def EntityId.outline (id : EntityId) : Outline :=
  .record "EntityId" [("shard", .nat id.shard.toNat), ("realm", .nat id.realm.toNat), ("num", .nat id.num.toNat)]
    false

def Endpoint.outline : Endpoint → Outline
  | .remote host number secure =>
    .record "Remote" [("host", .quoted host), ("port", .nat number.toNat), ("secure", .bool secure)] false
  | .inProcess name => .record "InProcess" [("name", .quoted name)] false

/-- The secret key is left out. -/
def Signer.outline (s : Signer) : Outline :=
  .record "Ed25519Signer" [("public_key", .quoted (Hex.encode s.publicKey))] true

def Transaction.outline (t : Transaction) : Outline :=
  .record "SubmitTransaction"
    [("body_len", .nat t.body.length), ("signers", .nat t.signers.length),
      ("node_ids", .option (fun ids => .list (ids.map EntityId.outline)) t.nodeIds)] false

def NodeHealth.outline (h : NodeHealth) (instant : String) : Outline :=
  .record "HealthSnapshot"
    [("next_eligible_at", .leaf instant), ("backoff", .leaf h.backoff.text),
      ("consecutive_failures", .nat h.failures)] false

def Node.outline {κ : Type} (showId : κ → Outline) (n : Node κ) (instant : String) : Outline :=
  .record "Node"
    [("remote_id", showId n.id), ("endpoint", n.endpoint.outline), ("health", n.health.outline instant),
      ("connected", .bool n.channel.isSome)] false

/-- Of each handler it is only shown whether it is there. -/
def Handlers.outline (h : Handlers) : Outline :=
  .record "SubscriptionHandlers"
    [("on_error", .bool h.hearsErrors), ("on_complete", .bool h.hearsCompletion),
      ("retry_when", .bool h.retryWhen.isSome)] true

def LedgerId.caseName : LedgerId → String
  | .mainnet => "Mainnet"
  | .testnet => "Testnet"
  | .previewnet => "Previewnet"
  | .local => "Local"

def Client.outline (c : Client) : Outline :=
  .record "Client"
    [("ledger", .option (fun l => .leaf l.caseName) c.ledger), ("nodes", .nat c.world.consensus.size),
      ("mirrors", .nat c.world.mirror.size), ("closed", .bool c.isClosed)] false

def Client.handleOutline (c : Client) (id : SubscriptionId) (name : String) : Outline :=
  .record "SubscriptionHandle" [("id", .leaf name), ("closed", .bool (c.world.isClosed id))] false

end LedgerNet
