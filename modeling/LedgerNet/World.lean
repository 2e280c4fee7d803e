import LedgerNet.Request.Basic

/-!
Everything that requests, refreshes and subscriptions share: the network in the process, the topologies of
consensus nodes and mirrors, the source of address books, and the subscriptions with what was delivered to them.
-/
namespace LedgerNet

inductive BookAnswer where
  | book (b : AddressBook)
  | fail (why : String)
  /-- The fetch breaks down without an answer. -/
  | breakdown

/-- A source of address books: its answers in order, the last of which repeats, and how long each takes. -/
structure BookSource where
  answers : List BookAnswer
  delay : Span := 0

def BookSource.take (s : BookSource) : BookAnswer × BookSource :=
  match s.answers with
  | [] => (.breakdown, s)
  | [a] => (a, s)
  | a :: rest => (a, { s with answers := rest })

inductive Delivery where
  | next (message : TopicMessage)
  | error (e : SubscriptionError)
  | complete

/-- A subscription as its handle sees it. Once it is closed no callback starts. -/
structure Subscription where
  closed : Bool := false
  cancelled : Bool := false
  deliveries : List (Instant × Delivery) := []

abbrev SubscriptionId := Nat

structure World where
  net : LocalNet
  consensus : Topology AccountId
  mirror : Topology String
  source : Option BookSource := none
  /-- Whether a refresh in the background is under way. -/
  refreshing : Bool := false
  triggered : Nat := 0
  subscriptions : List Subscription := []
  /-- Subscriptions that have neither finished nor been cancelled with all others. -/
  live : List SubscriptionId := []
  closed : Bool := false

namespace World

def now (w : World) : Instant := w.net.now

def report (w : World) (event : Event) : World := { w with net := w.net.report event }

/-- Starts a refresh in the background, unless one is under way, and says whether it did. -/
def trigger (w : World) : Bool × World :=
  if w.refreshing then (false, w) else (true, { w with refreshing := true, triggered := w.triggered + 1 })

def updateSubscription (w : World) (id : SubscriptionId) (f : Subscription → Subscription) : World :=
  { w with subscriptions := w.subscriptions.modify id f }

def subscribe (w : World) : SubscriptionId × World :=
  let id := w.subscriptions.length
  (id, { w with subscriptions := w.subscriptions ++ [{}], live := w.live ++ [id] })

def unsubscribe (w : World) (id : SubscriptionId) : World :=
  w.updateSubscription id fun s => { s with closed := true, cancelled := true }

def unsubscribeAll (w : World) : World :=
  { w.live.foldl unsubscribe w with live := [] }

def isClosed (w : World) (id : SubscriptionId) : Bool := w.subscriptions[id]?.any (·.closed)

def isCancelled (w : World) (id : SubscriptionId) : Bool := w.subscriptions[id]?.any (·.cancelled)

def deliver (w : World) (id : SubscriptionId) (delivery : Delivery) : World :=
  w.updateSubscription id fun s => { s with deliveries := (w.now, delivery) :: s.deliveries }

/-- What a subscriber was handed, in order, and a world that has forgotten it. -/
def takeDeliveries (w : World) (id : SubscriptionId) : List (Instant × Delivery) × World :=
  (((w.subscriptions[id]?.map (·.deliveries)).getD []).reverse,
    w.updateSubscription id fun s => { s with deliveries := [] })

end World

inductive Waiting where
  | nothing
  | time (t : Instant)
  | forever
deriving DecidableEq, Repr

namespace Waiting

def isOver (w : Waiting) (now : Instant) : Bool :=
  match w with
  | .nothing => true
  | .time t => t ≤ now
  | .forever => false

/-- The sooner of an instant that may never come and one that will. -/
def sooner (a : Option Instant) (b : Instant) : Waiting :=
  match a with
  | some t => .time (min t b)
  | none => .time b

def ofOption : Option Instant → Waiting
  | some t => .time t
  | none => .forever

def instant? : Waiting → Option Instant
  | .time t => some t
  | _ => none

end Waiting

end LedgerNet
