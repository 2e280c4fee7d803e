import LedgerNet.World

/-!
Fetching the address book anew and applying it: the node set first, then what is known of each node. A book
without entries is refused, for it would wipe the topology.
-/
namespace LedgerNet

inductive RefreshPhase where
  | beginning
  | fetching (ends : Instant)
  /-- The node set is replaced; the channels of removed nodes are closing. -/
  | closing (c : Closing) (change : NetworkChange) (book : AddressBook)
  /-- There is no result when the fetch broke down. -/
  | finished (result : Option (Except ClientError NetworkChange))

/-- A refresh as it runs. One in the background reports how it went, and makes way for the next. -/
structure RefreshRun where
  background : Bool
  phase : RefreshPhase := .beginning

namespace RefreshRun

def finish (run : RefreshRun) (result : Option (Except ClientError NetworkChange)) (w : World) :
    RefreshRun × World :=
  let w :=
    if run.background then
      let w := match result with
        | some (.ok change) => w.report (.bookRefreshed change.added change.removed)
        | some (.error e) => w.report (.refreshFailed e)
        | none => w
      { w with refreshing := false }
    else w
  ({ run with phase := .finished result }, w)

def take (run : RefreshRun) (w : World) : RefreshRun × World :=
  match w.source with
  | none => run.finish none w
  | some source =>
    let (answer, source) := source.take
    let w := { w with source := some source }
    match answer with
    | .breakdown => run.finish none w
    | .fail why => run.finish (some (.error (.addressBook why))) w
    | .book book =>
      if book.nodes.isEmpty then run.finish (some (.error (.addressBook "fetched address book is empty"))) w
      else
        let (change, retired, consensus) := w.consensus.replaceNetwork book.toNetwork w.now
        let (closing, net) := w.net.beginClose retired consensus.closeTimeout
        ({ run with phase := .closing closing change book }, { w with consensus, net })

/-- Reports a change of the node set, unless nothing changed. -/
def reportChange (w : World) (change : NetworkChange) : World :=
  if change.isNoop then w else w.report (.networkUpdated change.added change.removed change.unchanged)

def waiting (run : RefreshRun) : Waiting :=
  match run.phase with
  | .beginning => .nothing
  | .fetching ends => .time ends
  | .closing c _ _ => .time c.ends
  | .finished _ => .forever

def step (run : RefreshRun) (w : World) : RefreshRun × World :=
  match run.phase with
  | .beginning =>
    let delay := (w.source.map (·.delay)).getD 0
    let w := { w with net := w.net.note "address-book" .fetched }
    ({ run with phase := .fetching (Instant.wake (w.now + delay)) }, w)
  | .fetching _ => run.take w
  | .closing c change book =>
    let w := reportChange { w with net := w.net.endClose c } change
    let (consensus, net) := w.consensus.applyBook book w.net
    run.finish (some (.ok change)) { w with consensus, net }
  | .finished _ => (run, w)

def isFinished (run : RefreshRun) : Bool :=
  match run.phase with
  | .finished _ => true
  | _ => false

end RefreshRun

end LedgerNet
