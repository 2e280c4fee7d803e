import LedgerNet.Client
import LedgerNet.Proofs.Client.Tame

/-!
A client with everything that runs in it, under any interleaving. Whatever waits for its time may go on when that
has come, in any order; callers may begin new operations while others run; and outside, time passes and services
come, go and change.
-/
namespace LedgerNet

/-- Something that runs: an operation that a caller waits for, or a task beside the callers. -/
inductive Activity : Type 1 where
  | operation {β : Type} (o : Operation β)
  | task (t : Task)

namespace Activity

def waiting (w : World) : Activity → Waiting
  | .operation o => o.waiting
  | .task t => t.waiting w

def step (w : World) : Activity → Activity × World
  | .operation o => (.operation (o.step w).1, (o.step w).2)
  | .task t => (.task (t.step w).1, (t.step w).2)

/-- The book that the next step takes, if it takes one. -/
def book? (w : World) : Activity → Option AddressBook
  | .operation o => o.book? w
  | .task t => t.book? w

/-- Whether a client is being closed, and its mirrors come next. -/
def clearsMirror : Activity → Bool
  | .operation (.closingConsensus ..) => true
  | _ => false

/-- Whether a client is being closed. -/
def tearsDown : Activity → Bool
  | .operation (.closingConsensus ..) | .operation (.closingMirror ..) => true
  | _ => false

end Activity

/-- What a client is asked to do. -/
inductive ClientCall : Type 1 where
  | execute {α : Type} (request : Request α) (policy : RetryPolicy)
  | refresh
  | setNetwork (network : List (Endpoint × AccountId))
  | setMirrors (mirrors : List String)
  | setSecurity (secure : Bool)
  | setVerify (verify : Bool)
  | subscribe (query : TopicQuery) (codec : MirrorCodec) (handlers : Handlers)
  | close (ownsRuntime : Bool)
  | setBook (book : AddressBook)
  | setMaxNodes (count : Option Nat)
  | unsubscribe (id : SubscriptionId)

namespace ClientCall

/-- An operation that has begun. -/
def begun {β : Type} (started : Operation β × World) : List Activity × World :=
  ([.operation started.1], started.2)

/-- What a call sets going. A closed client refuses all but the last three kinds of call. -/
def begin (w : World) (call : ClientCall) : List Activity × World :=
  match call with
  | .setBook book =>
    let (consensus, net) := w.consensus.applyBook book w.net
    ([], { w with consensus, net })
  | .setMaxNodes count => ([], { w with consensus := { w.consensus with maxNodes := count } })
  | .unsubscribe id => ([], w.unsubscribe id)
  | call =>
    if w.closed then ([], w)
    else
      match call with
      | .execute request policy => begun (.request (.start request policy w.source.isSome w) id, w)
      | .refresh => if w.source.isNone then ([], w) else begun (.refresh { background := false } id, w)
      | .setNetwork network => begun (Slot.consensus.setNetwork network w)
      | .setMirrors mirrors =>
        match Client.mirrorEntries mirrors with
        | .error _ => ([], w)
        | .ok entries => begun (Slot.mirror.setNetwork entries w)
      | .setSecurity secure => begun (Slot.consensus.setSecurity secure w)
      | .setVerify verify => begun (Slot.consensus.setVerify verify w)
      | .subscribe query codec handlers =>
        ([.task (.drive { id := w.subscribe.1, codec, handlers, query })], w.subscribe.2)
      | .close ownsRuntime => begun (Operation.teardown ownsRuntime w)
      | _ => ([], w)

end ClientCall

/-- What happens outside a client: time passes, services change, and with them what becomes of channels to them and
what a source of address books has to say. -/
structure Outside where
  now : Instant
  services : List Registration
  refused : List (Endpoint × Status)
  slowToClose : List Endpoint
  source : BookSource

def Outside.apply (o : Outside) (w : World) : World :=
  { w with
    net := { w.net with
      now := max w.now o.now, services := o.services, refused := o.refused, slowToClose := o.slowToClose }
    source := w.source.map fun _ => o.source }

/-- What happens next in or around a client. -/
inductive Move : Type 1 where
  | call (call : ClientCall)
  /-- The activity at a place goes on, if its wait is over. -/
  | go (place : Nat)
  | outside (o : Outside)

def Move.isOutside : Move → Bool
  | .outside _ => true
  | _ => false

structure Scene : Type 1 where
  world : World
  activities : List Activity := []

namespace Scene

/-- Takes over a world, and starts the refreshes that were triggered in it. -/
def follow (activities : List Activity) (w : World) : Scene :=
  ⟨{ w with triggered := 0 },
    activities ++ List.replicate w.triggered (.task (.refresh { background := true }))⟩

def make (s : Scene) : Move → Scene
  | .call call => follow (s.activities ++ (call.begin s.world).1) (call.begin s.world).2
  | .go place =>
    match s.activities[place]? with
    | none => s
    | some a =>
      if (a.waiting s.world).isOver s.world.now then
        follow (s.activities.set place (a.step s.world).1) (a.step s.world).2
      else s
  | .outside o => { s with world := o.apply s.world }

/-- An activity either does not go on, or it takes its step. -/
theorem make_go (s : Scene) (place : Nat) : s.make (.go place) = s ∨
    ∃ a, s.activities[place]? = some a ∧ (a.waiting s.world).isOver s.world.now = true ∧
      s.make (.go place) = follow (s.activities.set place (a.step s.world).1) (a.step s.world).2 := by
  rw [make]
  split
  · exact .inl rfl
  · rename_i a ha
    split
    · rename_i hover
      exact .inr ⟨a, ha, hover, rfl⟩
    · exact .inl rfl

/-- A scene after some moves, the latest first. -/
def after (s : Scene) : List Move → Scene
  | [] => s
  | move :: past => (s.after past).make move

theorem after_append (s : Scene) (later earlier : List Move) :
    s.after (later ++ earlier) = (s.after earlier).after later := by
  induction later with
  | nil => rfl
  | cons move rest ih => exact congrArg (·.make move) ih

end Scene

end LedgerNet
