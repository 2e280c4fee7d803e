import LedgerNet.ClientError
import LedgerNet.Network.LedgerId
import LedgerNet.Text.Quoted

/-!
What the library reports while it works: levelled events with named fields.
-/
namespace LedgerNet

inductive Level where
  | trace
  | debug
  | info
  | warn
  | error
deriving DecidableEq, Repr

def Level.name : Level → String
  | .trace => "TRACE"
  | .debug => "DEBUG"
  | .info => "INFO"
  | .warn => "WARN"
  | .error => "ERROR"

inductive Event where
  | openingChannel (endpoint : Endpoint) (tls : Bool)
  | channelOpened (endpoint : Endpoint) (tls : Bool)
  | closeTimedOut (timeoutMs : Nat)
  | nodeRemoved (node : String) (endpoint : Endpoint) (failures : Nat)
  | nodeUnhealthy (endpoint : Endpoint) (backoffMs failures : Nat)
  | networkUpdated (added removed unchanged : Nat)
  | securityChanged (secure : Bool)
  | topologyClosed (channels : Nat)
  | bookApplied (entries : Nat)
  | bookRefreshed (added removed : Nat)
  | refreshFailed (error : ClientError)
  | clientReady (ledger : Option LedgerId) (nodes mirrors : Nat) (secure : Bool)
  | clientClosed (subscriptions : Nat) (ownsRuntime : Bool)
  | requestTimedOut (attempts elapsedMs : Nat)
  | waitingForNode (waitMs : Nat)
  | sendingRequest (node : String) (endpoint : Endpoint) (attempt : Nat) (method : String)
  | requestPayload (node payload : String)
  | responsePayload (node response : String)
  | requestSucceeded (node : String) (attempts : Nat)
  | requestFailed (node : String) (attempt : Nat) (error : ClientError)
  | retryingRequest (node : String) (attempt : Nat) (error : ClientError) (delayMs : Nat) (advance : Bool)
  | chunkBuffered (transactionId : String) (received total : Nat)
  | openingStream (topic : String) (mirror : Endpoint) (limit : Nat) (start : Option String)
  | streamFailed (topic : String) (attempt delayMs : Nat) (error : Status)
  | subscriptionCancelled (topic : String)
  | cancelledDuringBackoff (topic : String)
  | subscriptionComplete (topic : String)
  | subscriptionFailed (topic : String) (error : SubscriptionError)

namespace Event

def level : Event → Level
  | .openingChannel .. | .requestPayload .. | .responsePayload .. | .chunkBuffered .. => .trace
  | .channelOpened .. | .nodeUnhealthy .. | .topologyClosed .. | .bookApplied .. | .bookRefreshed ..
  | .clientClosed .. | .waitingForNode .. | .sendingRequest .. | .requestSucceeded .. | .retryingRequest ..
  | .openingStream .. | .subscriptionCancelled .. | .cancelledDuringBackoff .. | .subscriptionComplete .. =>
    .debug
  | .networkUpdated .. | .securityChanged .. | .clientReady .. => .info
  | .closeTimedOut .. | .nodeRemoved .. | .refreshFailed .. | .requestTimedOut .. | .requestFailed ..
  | .streamFailed .. => .warn
  | .subscriptionFailed .. => .error

def message : Event → String
  | .openingChannel .. => "opening local channel"
  | .channelOpened .. => "channel opened"
  | .closeTimedOut .. => "channel close timed out"
  | .nodeRemoved .. => "removing node after repeated failures"
  | .nodeUnhealthy .. => "node marked unhealthy"
  | .networkUpdated .. => "network updated"
  | .securityChanged .. => "transport security changed; all nodes eligible"
  | .topologyClosed .. => "topology closed"
  | .bookApplied .. => "address book applied"
  | .bookRefreshed .. => "address book refreshed"
  | .refreshFailed .. => "address book refresh failed"
  | .clientReady .. => "client ready"
  | .clientClosed .. => "client closed"
  | .requestTimedOut .. => "request timed out"
  | .waitingForNode .. => "no eligible node; waiting"
  | .sendingRequest .. => "sending request"
  | .requestPayload .. => "request payload"
  | .responsePayload .. => "response payload"
  | .requestSucceeded .. => "request succeeded"
  | .requestFailed .. => "request failed"
  | .retryingRequest .. => "retrying request"
  | .chunkBuffered .. => "chunk buffered"
  | .openingStream .. => "opening subscription stream"
  | .streamFailed .. => "subscription stream failed; reconnecting"
  | .subscriptionCancelled .. => "subscription cancelled"
  | .cancelledDuringBackoff .. => "subscription cancelled during backoff"
  | .subscriptionComplete .. => "subscription complete"
  | .subscriptionFailed .. => "subscription failed"

def optionText : Option String → String
  | none => "None"
  | some s => s!"Some({Text.Quoted.text s})"

def fields : Event → List (String × String)
  | .openingChannel endpoint tls => [("endpoint", endpoint.text), ("tls", toString tls)]
  | .channelOpened endpoint tls => [("endpoint", endpoint.text), ("tls", toString tls)]
  | .closeTimedOut timeoutMs => [("timeout_ms", toString timeoutMs)]
  | .nodeRemoved node endpoint failures =>
    [("node", node), ("endpoint", endpoint.text), ("failures", toString failures)]
  | .nodeUnhealthy endpoint backoffMs failures =>
    [("endpoint", endpoint.text), ("backoff_ms", toString backoffMs), ("failures", toString failures)]
  | .networkUpdated added removed unchanged =>
    [("added", toString added), ("removed", toString removed), ("unchanged", toString unchanged)]
  | .securityChanged secure => [("secure", toString secure)]
  | .topologyClosed channels => [("channels", toString channels)]
  | .bookApplied entries => [("entries", toString entries)]
  | .bookRefreshed added removed => [("added", toString added), ("removed", toString removed)]
  | .refreshFailed error => [("error", error.message)]
  | .clientReady ledger nodes mirrors secure =>
    [("ledger", optionText (ledger.map LedgerId.name)), ("nodes", toString nodes), ("mirrors", toString mirrors),
      ("secure", toString secure)]
  | .clientClosed subscriptions ownsRuntime =>
    [("subscriptions", toString subscriptions), ("owns_runtime", toString ownsRuntime)]
  | .requestTimedOut attempts elapsedMs => [("attempts", toString attempts), ("elapsed_ms", toString elapsedMs)]
  | .waitingForNode waitMs => [("wait_ms", toString waitMs)]
  | .sendingRequest node endpoint attempt method =>
    [("node", node), ("endpoint", endpoint.text), ("attempt", toString attempt), ("method", method)]
  | .requestPayload node payload => [("node", node), ("payload", payload)]
  | .responsePayload node response => [("node", node), ("response", response)]
  | .requestSucceeded node attempts => [("node", node), ("attempts", toString attempts)]
  | .requestFailed node attempt error =>
    [("node", node), ("attempt", toString attempt), ("error", error.message)]
  | .retryingRequest node attempt error delayMs advance =>
    [("node", node), ("attempt", toString attempt), ("error", error.message), ("delay_ms", toString delayMs),
      ("advance", toString advance)]
  | .chunkBuffered transactionId received total =>
    [("initial_transaction_id", transactionId), ("received", toString received), ("total", toString total)]
  | .openingStream topic mirror limit start =>
    [("topic", topic), ("mirror", mirror.text), ("limit", toString limit), ("start", optionText start)]
  | .streamFailed topic attempt delayMs error =>
    [("topic", topic), ("attempt", toString attempt), ("delay_ms", toString delayMs), ("error", error.text)]
  | .subscriptionCancelled topic => [("topic", topic)]
  | .cancelledDuringBackoff topic => [("topic", topic)]
  | .subscriptionComplete topic => [("topic", topic)]
  | .subscriptionFailed topic error => [("topic", topic), ("error", error.message)]

end Event

end LedgerNet
