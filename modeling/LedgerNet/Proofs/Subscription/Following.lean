import LedgerNet.Proofs.Subscription.Resume
import LedgerNet.Proofs.Subscription.Streams
import LedgerNet.Proofs.Wire.Mirror

/-!
A subscription from its start on, while anything may happen to everything else. Before each step of its drive the
world may change as it likes; only the subscription itself is left alone, so nobody cancels it.
-/
namespace LedgerNet

open Simulation Text Wire

/-- How a stream fails. -/
inductive StreamBreak where
  /-- No channel to the mirror can be opened. -/
  | unreachable (status : Status)
  | refused (status : Status)
  /-- After so many of its items; it may fail before the first and after the last. -/
  | cut (count : Nat) (status : Status)

def StreamBreak.status : StreamBreak → Status
  | .unreachable status | .refused status | .cut _ status => status

/-- The elements of a stream of items. -/
def elements (items : List TopicResponse) : List (Except Status String) := items.map fun r => .ok (encodeResponse r)

/-- What a mirror of a log may answer to a query: a stream of what the query asks for, whole or broken. -/
inductive Answers (log : List TopicResponse) (q : MirrorQuery) : Option StreamBreak → StreamTicket → Prop where
  | whole (interval : Span) (metered : Bool) :
      Answers log q none (some (.ok ⟨elements (Mirror.asked log q), interval, false, metered⟩))
  | refused (status : Status) : Answers log q (some (.refused status)) (some (.error status))
  | cut (count : Nat) (status : Status) (more : List (Except Status String)) (interval : Span)
      (staysOpen metered : Bool) :
      Answers log q (some (.cut count status))
        (some (.ok ⟨elements ((Mirror.asked log q).take count) ++ .error status :: more, interval, staysOpen, metered⟩))

/-- How a simulated mirror breaks the stream that it is asked for next. -/
def Simulation.Mirror.breaks? (mirror : Mirror) (q : MirrorQuery) : Option StreamBreak :=
  if mirror.breakAfter < (asked mirror.log q).length ∧ 0 < mirror.breaksLeft then
    some (.cut mirror.breakAfter (cut (mirror.breaksLeft - 1)))
  else none

/-- A simulated mirror is a mirror of its log. -/
theorem Simulation.Mirror.answers (mirror : Mirror) {payload : String} {q : MirrorQuery}
    (hq : decodeQuery (Symbol.ofString payload) = .ok q) :
    Answers mirror.log q (mirror.breaks? q) (some (mirror.openStream payload).1) := by
  by_cases h : mirror.breakAfter < (asked mirror.log q).length ∧ 0 < mirror.breaksLeft
  · simp only [breaks?, openStream, hq, List.length_map, h, and_self, if_true]
    rw [← List.map_take]
    exact .cut mirror.breakAfter _ [] mirror.interval false true
  · simp only [breaks?, openStream, hq, List.length_map, h, if_false]
    exact .whole mirror.interval true

theorem LocalNet.openStream_mirror {net : LocalNet} {id : ChannelId} {registration : Registration} (mirror : Mirror)
    (hreach : net.reach id = .ok registration) (hs : registration.service = .mirror mirror) (method payload : String) :
    (net.openStream id method payload).1 = some (mirror.openStream payload).1 := by
  simp only [openStream, hreach, hs]

/-- Whether the mirror whose turn it is serves a log when it is sent a query, or fails to in some way. -/
inductive World.Serves (w : World) (log : List TopicResponse) (payload : String) (broken : Option StreamBreak) :
    Prop where
  | unreachable {lease : Lease String} {mirror : Topology String} {net : LocalNet} {status : Status}
      (turn : w.mirror.leaseNext w.net = (some lease, mirror, net)) (channel : lease.channel = .error status)
      (breaks : broken = some (.unreachable status))
  | reached {lease : Lease String} {mirror : Topology String} {net : LocalNet} {id : ChannelId}
      (turn : w.mirror.leaseNext w.net = (some lease, mirror, net)) (channel : lease.channel = .ok id)
      (answers : ∀ q, decodeQuery (Symbol.ofString payload) = .ok q →
        Answers log q broken (net.openStream id subscribeMethod payload).1)

/-- Whether a drive asks for its next stream. -/
def Drive.isConnecting (d : Drive) : Bool :=
  match d.phase with
  | .connecting => true
  | _ => false

/-- What a drive that asks for its next stream sends, unless its query has met its limit. -/
def Drive.payload? (d : Drive) : Option String :=
  (d.query.resume d.last d.received).bind fun next => (d.codec.encodeQuery next).toOption

/-- A drive as it is with some items received. -/
def Drive.holding (d : Drive) (items : List TopicResponse) : Drive :=
  { d with
    chunks := ((⟨[]⟩ : ChunkBuffer).acceptAll items).1, received := items.length
    last := items.getLast?.map (·.timestamp) }

/-- A subscription, the world in which it is made, and what happens to the world before each step of its drive. -/
structure Following where
  handlers : Handlers
  query : TopicQuery
  world : World
  meddle : Nat → World → World
  undisturbed : ∀ n w, (meddle n w).subscriptions[world.subscribe.1]? = w.subscriptions[world.subscribe.1]?

namespace Following

def id (f : Following) : SubscriptionId := f.world.subscribe.1

/-- The drive after some steps, and the world as the last of them left it. -/
def after (f : Following) : Nat → Drive × World
  | 0 => ({ id := f.id, codec := .json, handlers := f.handlers, query := f.query }, f.world.subscribe.2)
  | n + 1 => (f.after n).1.step (f.meddle n (f.after n).2)

def drive (f : Following) (n : Nat) : Drive := (f.after n).1

/-- The world in which the next step after some is taken. -/
def before (f : Following) (n : Nat) : World := f.meddle n (f.after n).2

/-- How many streams were asked for. -/
def connects (f : Following) (n : Nat) : Nat := (List.range n).countP fun k => (f.drive k).isConnecting

/-- What the subscriber was handed, in order. -/
def heard (f : Following) (n : Nat) : List Delivery := ((f.after n).2.takeDeliveries f.id).1.map (·.2)

/-- All mirrors serve a log, but the first streams that are asked for break. -/
def Served (f : Following) (log : List TopicResponse) (breaks : List StreamBreak) : Prop :=
  ∀ n payload, (f.drive n).isConnecting = true → (f.drive n).payload? = some payload →
    (f.before n).Serves log payload breaks[f.connects n]?

variable {f : Following} {n m : Nat} {got rest : List TopicResponse}

theorem drive_succ (f : Following) (n : Nat) : f.drive (n + 1) = ((f.drive n).step (f.before n)).1 := rfl

theorem after_succ (f : Following) (n : Nat) : f.after (n + 1) = (f.drive n).step (f.before n) := rfl

theorem connects_succ (f : Following) (n : Nat) :
    f.connects (n + 1) = f.connects n + if (f.drive n).isConnecting then 1 else 0 := by
  simp [connects, List.range_succ, List.countP_append, List.countP_cons]

/-- Where a drive stands that has received some items. -/
structure Stands (f : Following) (n : Nat) (got : List TopicResponse) : Prop where
  id : (f.drive n).id = f.id
  codec : (f.drive n).codec = .json
  handlers : (f.drive n).handlers = f.handlers
  query : (f.drive n).query = f.query
  chunks : (f.drive n).chunks = ((⟨[]⟩ : ChunkBuffer).acceptAll got).1
  received : (f.drive n).received = got.length
  last : (f.drive n).last = got.getLast?.map (·.timestamp)
  connects : f.connects n = (f.drive n).attempt + if (f.drive n).isConnecting then 0 else 1
  hears : (f.after n).2.Hears f.id ((ChunkBuffer.messages got).map .next)

theorem stands_start (f : Following) : f.Stands 0 [] := by
  refine ⟨rfl, rfl, rfl, rfl, rfl, rfl, rfl, rfl, [], ?_, rfl⟩
  simp [after, id, World.subscribe]

/-- The subscription is as the drive left it when the drive goes on. -/
theorem Stands.hears_before (h : f.Stands n got) :
    (f.before n).Hears (f.drive n).id ((ChunkBuffer.messages got).map .next) := by
  rw [h.id]
  exact h.hears.congr (f.undisturbed n _)

/-- A step after which the drive has received some items, and does not ask for a stream next. -/
theorem Stands.succ {all : List TopicResponse} (h : f.Stands n got)
    (hk : Drive.Keeps ((f.drive n).holding all) (f.drive (n + 1))) (hc : (f.drive (n + 1)).isConnecting = false)
    (hh : (f.after (n + 1)).2.Hears f.id ((ChunkBuffer.messages all).map .next)) : f.Stands (n + 1) all := by
  refine ⟨hk.id.trans h.id, hk.codec.trans h.codec, hk.handlers.trans h.handlers, hk.query.trans h.query,
    hk.chunks, hk.received, hk.last, ?_, hh⟩
  have ha : (f.drive (n + 1)).attempt = (f.drive n).attempt := hk.attempt
  rw [connects_succ, h.connects, hc, ha]
  cases (f.drive n).isConnecting <;> rfl

/-- A quiet step that does not ask for a stream next. -/
theorem Stands.quiet (h : f.Stands n got)
    (hq : Drive.Quiet (f.drive n) (f.before n) ((f.drive n).step (f.before n)))
    (hc : (f.drive (n + 1)).isConnecting = false) : f.Stands (n + 1) got := by
  have hgot : Drive.Keeps ((f.drive n).holding got) (f.drive n) :=
    ⟨rfl, rfl, rfl, rfl, h.chunks, h.received, h.last, rfl⟩
  have hb := h.hears_before
  rw [h.id] at hb
  exact h.succ (hgot.trans hq.keeps) hc (hb.congr (congrArg (·[f.id]?) hq.subscriptions))

/-- From one step on the drive gets to another without a wait that never ends. -/
def Leads (f : Following) (n m : Nat) : Prop := n ≤ m ∧ ∀ k, n ≤ k → k < m → (f.drive k).waiting ≠ .forever

theorem Leads.trans {k : Nat} (hnm : f.Leads n m) (hmk : f.Leads m k) : f.Leads n k := by
  refine ⟨Nat.le_trans hnm.1 hmk.1, ?_⟩
  intro j hnj hjk
  by_cases hjm : j < m
  · exact hnm.2 j hnj hjm
  · exact hmk.2 j (Nat.le_of_not_lt hjm) hjk

theorem Leads.one (h : (f.drive n).waiting ≠ .forever) : f.Leads n (n + 1) := by
  refine ⟨Nat.le_succ n, ?_⟩
  intro k hk hlt
  have heq : k = n := Nat.le_antisymm (Nat.le_of_lt_succ hlt) hk
  exact heq ▸ h

/-- The drive has ended well, and the subscriber has heard all. -/
def Done (f : Following) (n : Nat) (items : List TopicResponse) : Prop :=
  (f.drive n).phase = .finished ∧
    (f.after n).2.HasHeard f.id ((ChunkBuffer.messages items).map .next ++
      if f.handlers.hearsCompletion then [.complete] else [])

theorem finished_succ (h : (f.drive n).phase = .finished) : f.after (n + 1) = (f.drive n, f.before n) := by
  rw [after_succ, Drive.step]
  simp only [h]

theorem finished_later (h : (f.drive n).phase = .finished) (hm : n ≤ m) : (f.drive m).phase = .finished := by
  induction hm with
  | refl => exact h
  | step _ ih =>
    rw [drive, finished_succ ih]
    exact ih

/-- What has ended well stays so. -/
theorem Done.succ {items : List TopicResponse} (h : f.Done n items) : f.Done (n + 1) items := by
  refine ⟨finished_later h.1 (Nat.le_succ n), ?_⟩
  rw [finished_succ h.1]
  exact h.2.congr (f.undisturbed n _)

theorem Done.later {items : List TopicResponse} (h : f.Done n items) (hm : n ≤ m) : f.Done m items := by
  induction hm with
  | refl => exact h
  | step _ ih => exact ih.succ

/-- From its end on, a drive that has ended well has told the subscriber all. -/
theorem Done.told {items : List TopicResponse} (h : f.Done n items) (hm : n ≤ m) : (f.drive m).isFinished = true ∧
    f.heard m = (ChunkBuffer.messages items).map .next ++ if f.handlers.hearsCompletion then [.complete] else [] := by
  obtain ⟨hfinished, deliveries, hrecord, hheard⟩ := h.later hm
  refine ⟨by simp [Drive.isFinished, hfinished], ?_⟩
  simpa [heard, World.takeDeliveries, hrecord] using hheard

/-- A drive that completes with all its items ends well. -/
theorem Stands.done (h : f.Stands n got)
    (hstep : (∃ mirror, (f.drive n).step (f.before n) = (f.drive n).endStream mirror .completed (f.before n)) ∨
      (f.drive n).step (f.before n) = (f.drive n).complete (f.before n)) : f.Done (n + 1) got := by
  have hboth : ((f.drive n).step (f.before n)).1.phase = .finished ∧
      ((f.drive n).step (f.before n)).2.HasHeard (f.drive n).id
        ((ChunkBuffer.messages got).map .next ++ (f.drive n).farewell) := by
    rcases hstep with ⟨mirror, hs⟩ | hs
    · rw [hs]
      exact Drive.endStream_completed h.hears_before mirror
    · rw [hs]
      exact Drive.complete_open h.hears_before
  rw [h.id, Drive.farewell, h.handlers] at hboth
  exact hboth

end Following

end LedgerNet
