import LedgerNet.Proofs.Network.Refresh
import LedgerNet.Proofs.Request.Turn
import LedgerNet.Proofs.Subscription.Effects
import LedgerNet.Proofs.Topology.Emptied
import LedgerNet.Scheduler

/-!
Steps that bring no nodes where there are none, and use the transport only where there are some. All steps of
requests and subscriptions are of this kind, and those of a refresh but one: the one that takes a book.
-/
namespace LedgerNet

open Text

/-- Between two worlds a topology without nodes has got none, and where neither had any the transport was left
alone. Whether the client is closed has not changed. -/
structure World.Tame (w w' : World) : Prop where
  closed : w'.closed = w.closed
  consensus : w.consensus.nodes = [] → w'.consensus.nodes = []
  mirror : w.mirror.nodes = [] → w'.mirror.nodes = []
  unused : w.consensus.nodes = [] → w.mirror.nodes = [] → w.net.Unused w'.net

namespace World

theorem Tame.refl (w : World) : w.Tame w := ⟨rfl, id, id, fun _ _ => .refl _⟩

theorem Tame.trans {a b c : World} (hab : a.Tame b) (hbc : b.Tame c) : a.Tame c := by
  refine ⟨hbc.closed.trans hab.closed, fun h => hbc.consensus (hab.consensus h),
    fun h => hbc.mirror (hab.mirror h), ?_⟩
  intro hc hm
  exact (hab.unused hc hm).trans (hbc.unused (hab.consensus hc) (hab.mirror hm))

theorem Tame.of_net {w w' : World} (hc : w'.closed = w.closed) (hcons : w'.consensus.nodes = w.consensus.nodes)
    (hm : w'.mirror.nodes = w.mirror.nodes) (hu : w.net.Unused w'.net) : w.Tame w' :=
  ⟨hc, fun h => hcons ▸ h, fun h => hm ▸ h, fun _ _ => hu⟩

/-- Where there is a consensus node, only the mirrors need be watched. -/
theorem Tame.of_nodes {w w' : World} (v : World) (hne : w.consensus.nodes ≠ []) (hc : v.closed = w.closed)
    (hm : v.mirror.nodes = w.mirror.nodes) (h : v.Tame w') : w.Tame w' :=
  ⟨h.closed.trans hc, fun hnil => absurd hnil hne, fun hnil => h.mirror (hm.trans hnil),
    fun hnil => absurd hnil hne⟩

theorem Tame.of_some {w w' : World} (hne : w.consensus.nodes ≠ []) (hc : w'.closed = w.closed)
    (hm : w'.mirror.nodes = w.mirror.nodes) : w.Tame w' :=
  .of_nodes w' hne hc hm (.refl w')

/-- Where there is a mirror, only the consensus nodes need be watched. -/
theorem Tame.of_mirror {w w' : World} (v : World) (hne : w.mirror.nodes ≠ []) (hc : v.closed = w.closed)
    (hcons : v.consensus.nodes = w.consensus.nodes) (h : v.Tame w') : w.Tame w' :=
  ⟨h.closed.trans hc, fun hnil => h.consensus (hcons.trans hnil), fun hnil => absurd hnil hne,
    fun _ hnil => absurd hnil hne⟩

theorem Tame.of_some_mirror {w w' : World} (hne : w.mirror.nodes ≠ []) (hc : w'.closed = w.closed)
    (hcons : w'.consensus.nodes = w.consensus.nodes) : w.Tame w' :=
  .of_mirror w' hne hc hcons (.refl w')

theorem tame_report (w : World) (event : Event) : w.Tame (w.report event) :=
  .of_net rfl rfl rfl (w.net.unused_report event)

theorem tame_net {w : World} {net : LocalNet} (h : w.net.Unused net) : w.Tame { w with net } := .of_net rfl rfl rfl h

theorem tame_trigger (w : World) : w.Tame w.trigger.2 := by
  unfold trigger
  split
  · exact .refl w
  · exact .of_net rfl rfl rfl (.refl _)

theorem tame_deliver (w : World) (id : SubscriptionId) (delivery : Delivery) : w.Tame (w.deliver id delivery) :=
  .of_net rfl rfl rfl (.refl _)

theorem tame_consensus_success (w : World) (endpoint : Endpoint) :
    w.Tame { w with consensus := w.consensus.markSuccess endpoint w.now } :=
  ⟨rfl, fun h => Topology.markSuccess_nil h endpoint w.now, id, fun _ _ => .refl _⟩

theorem tame_mirror_success (w : World) (endpoint : Endpoint) :
    w.Tame { w with mirror := w.mirror.markSuccess endpoint w.now } :=
  ⟨rfl, id, fun h => Topology.markSuccess_nil h endpoint w.now, fun _ _ => .refl _⟩

end World

namespace RequestRun
open World

variable {α : Type}

theorem proceed_tame (run : RequestRun α) (plan : RetryPlan) (error : ClientError) (w : World) :
    w.Tame (run.proceed plan error w).2 := by
  unfold proceed
  dsimp only
  split
  · exact w.tame_trigger
  · exact .refl w

theorem settle_tame (run : RequestRun α) (node : AccountId) (endpoint : Option Endpoint) (outcome : Outcome)
    (value : Option α) (w : World) : w.Tame (run.settle node endpoint outcome value w).2 := by
  unfold settle
  dsimp only
  split
  · cases endpoint <;> dsimp only <;> split
    · exact .refl w
    · exact w.tame_report _
    · exact w.tame_consensus_success _
    · exact (w.tame_consensus_success _).trans (tame_report _ _)
  · exact w.tame_report _
  · rename_i plan error _
    refine (w.tame_report (.retryingRequest node.text run.pending.attempt error plan.delay.millis
      plan.advance)).trans ?_
    generalize w.report (.retryingRequest node.text run.pending.attempt error plan.delay.millis plan.advance) = w
    split
    · exact run.proceed_tame plan error w
    · split
      · rename_i consensus net heq
        obtain ⟨rfl, rfl⟩ := Topology.markFailure_none heq
        exact run.proceed_tame plan error w
      · rename_i marked consensus net heq
        exact .of_some (Topology.markFailure_some heq) rfl rfl

theorem attempt_tame (run : RequestRun α) (node : AccountId) (w : World) : w.Tame (run.attempt node w).2 := by
  by_cases hnil : w.consensus.nodes = []
  · have hl := Topology.lease_nil hnil node w.net
    simp only [attempt, hl]
    exact run.settle_tame _ _ _ _ w
  · unfold attempt
    split
    · exact run.settle_tame _ _ _ _ w
    · rename_i lease consensus net _
      have hl (w' : World) (h : World.Tame { w with consensus, net } w') : w.Tame w' :=
        .of_nodes { w with consensus, net } hnil rfl rfl h
      dsimp only
      split
      · exact hl _ (run.settle_tame _ _ _ _ _)
      · split
        · exact hl _ (.refl _)
        · exact .of_some hnil rfl rfl

theorem receive_tame (run : RequestRun α) (c : Calling) (w : World) : w.Tame (run.receive c w).2 := by
  unfold receive
  dsimp only
  split
  · exact run.settle_tame _ _ _ _ w
  · split
    · exact run.settle_tame _ _ _ _ w
    · rename_i response _
      refine (w.tame_report (.responsePayload c.node.text (Hex.encode (Utf8.encode response)))).trans ?_
      split
      · exact .refl _
      · split
        · split
          · exact .refl _
          · exact run.settle_tame _ _ _ _ _
        · exact run.settle_tame _ _ _ _ _

theorem take_tame (run : RequestRun α) (w : World) (turn : RequestTurn) : w.Tame (run.take w turn).2 := by
  cases turn with
  | expire => exact w.tame_report _
  | starve => exact .refl w
  | wait p span => exact w.tame_report _
  | spent p error => exact .refl w
  | attempt node p => exact attempt_tame _ node w

theorem step_tame (run : RequestRun α) (w : World) : w.Tame (run.step w).2 := by
  unfold step
  split
  · rw [decide_eq]
    exact run.take_tame w _
  · exact .refl w
  · exact run.receive_tame _ w
  · rename_i b _
    exact ((tame_net (w.net.unused_endClose b.closing)).trans (tame_report _ _)).trans (run.proceed_tame _ _ _)
  · exact .refl w

end RequestRun

theorem World.Tells.tame {w w' : World} (h : w.Tells w') : w.Tame w' := by
  cases h with
  | nothing => exact .of_net rfl rfl rfl (.refl _)
  | event event => exact (w.tame_report event).trans (.of_net rfl rfl rfl (.refl _))

namespace RefreshStep
open World

variable {w w' : World} {phase phase' : RefreshPhase}

theorem tame (h : RefreshStep w phase phase' w')
    (hbook : ∀ ends book, phase = .fetching ends → w.fetched = .book book → book.toNetwork = []) : w.Tame w' := by
  have hsource (source : Option BookSource) : w.Tame { w with source } := .of_net rfl rfl rfl (.refl _)
  cases h with
  | begins => exact tame_net (w.net.unused_note "address-book" rfl)
  | breaks _ ht => exact (hsource _).trans ht.tame
  | fails why _ ht => exact (hsource _).trans ht.tame
  | refuses book _ _ ht => exact (hsource _).trans ht.tame
  | @takes _ _ _ retired consensus _ _ book hf _ hreplace hclose =>
    have hnil := (Topology.replace_nil_iff w.consensus _ w.now).mpr (hbook _ book rfl hf)
    have hunused := w.net.unused_beginClose retired consensus.closeTimeout
    rw [hreplace] at hnil
    rw [hclose] at hunused
    exact ⟨rfl, fun _ => hnil, id, fun _ _ => hunused⟩
  | @applies c change book reported _ _ _ hr happly ht =>
    refine ((tame_net (w.net.unused_endClose c)).trans hr.tame).trans (.trans ?_ ht.tame)
    cases happly
    refine ⟨rfl, ?_, id, fun _ _ => reported.net.unused_report _⟩
    intro hnil
    simp [hnil]
  | rests => exact .refl w

theorem leaves_nodes {ends : Instant} {book : AddressBook} (h : RefreshStep w (.fetching ends) phase' w')
    (hf : w.fetched = .book book) (hn : book.toNetwork ≠ []) : w'.consensus.nodes ≠ [] := by
  cases h with
  | breaks hf' => cases hf'.symm.trans hf
  | fails why hf' => cases hf'.symm.trans hf
  | refuses book' hf' hnil =>
    cases hf'.symm.trans hf
    exact absurd (by simp [AddressBook.toNetwork, hnil, EndpointMap.ofPairs]) hn
  | takes book' hf' _ hreplace =>
    cases hf'.symm.trans hf
    cases hreplace
    exact fun hnil => hn ((Topology.replace_nil_iff w.consensus book.toNetwork w.now).mp hnil)

end RefreshStep

namespace RefreshRun
open World

/-- The book that the next step takes, if it takes one. -/
def book? (run : RefreshRun) (w : World) : Option AddressBook :=
  match run.phase, w.source with
  | .fetching _, some source =>
    match source.take.1 with
    | .book book => some book
    | _ => none
  | _, _ => none

theorem book?_eq_some {run : RefreshRun} {w : World} {book : AddressBook} :
    run.book? w = some book ↔ (∃ ends, run.phase = .fetching ends) ∧ w.fetched = .book book := by
  unfold book? World.fetched
  cases run.phase <;> cases w.source <;> simp
  split <;> simp_all

/-- A step that takes no book with an endpoint in it. -/
theorem step_tame (run : RefreshRun) (w : World) (h : ∀ book, run.book? w = some book → book.toNetwork = []) :
    w.Tame (run.step w).2 := by
  refine (run.step_cases w).tame fun ends book hp hf => h book ?_
  exact book?_eq_some.mpr ⟨⟨ends, hp⟩, hf⟩

/-- A refresh has nothing to do with mirrors. -/
theorem step_mirror (run : RefreshRun) (w : World) :
    (run.step w).2.closed = w.closed ∧ (run.step w).2.mirror = w.mirror := by
  obtain ⟨hmirror, hclosed, -⟩ := (run.step_cases w).same
  exact ⟨hclosed, hmirror⟩

/-- A book with an endpoint in it leaves nodes. -/
theorem step_book {run : RefreshRun} {w : World} {book : AddressBook} (hb : run.book? w = some book)
    (hn : book.toNetwork ≠ []) : (run.step w).2.consensus.nodes ≠ [] := by
  obtain ⟨⟨ends, hp⟩, hf⟩ := book?_eq_some.mp hb
  exact (hp ▸ run.step_cases w).leaves_nodes hf hn

end RefreshRun

namespace Drive
open World

theorem stop_tame (d : Drive) (w : World) : w.Tame (d.stop w).2 := .of_net rfl rfl rfl (.refl _)

theorem complete_tame (d : Drive) (w : World) : w.Tame (d.complete w).2 := by
  unfold complete
  split
  · exact d.stop_tame w
  · dsimp only
    refine Tame.trans ?_ (d.stop_tame _)
    have hr : w.Tame ((w.updateSubscription d.id fun s => { s with closed := true }).report
        (.subscriptionComplete d.topic)) := .of_net rfl rfl rfl (w.net.unused_report _)
    split
    · exact hr.trans (tame_deliver _ _ _)
    · exact hr

theorem fail_tame (d : Drive) (error : SubscriptionError) (w : World) : w.Tame (d.fail error w).2 := by
  unfold fail
  split
  · exact d.stop_tame w
  · dsimp only
    refine Tame.trans ?_ (d.stop_tame _)
    split
    · exact .of_net rfl rfl rfl (.refl _)
    · exact .of_net rfl rfl rfl (w.net.unused_report _)

theorem retry_tame (d : Drive) (status : Status) (w : World) : w.Tame (d.retry status w).2 := by
  unfold retry
  split
  · exact d.fail_tame _ w
  · split
    · exact d.fail_tame _ w
    · exact w.tame_report _

theorem endStream_tame (d : Drive) (mirror : Endpoint) (how : StreamEnd) (w : World) :
    w.Tame (d.endStream mirror how w).2 := by
  unfold endStream
  dsimp only
  have hs : w.Tame (if d.receivedBefore < d.received then
      { w with mirror := w.mirror.markSuccess mirror w.now } else w) := by
    split
    · exact w.tame_mirror_success mirror
    · exact .refl w
  refine hs.trans ?_
  generalize (if d.receivedBefore < d.received then
      { w with mirror := w.mirror.markSuccess mirror w.now } else w) = w
  cases how with
  | cancelled => exact (w.tame_report _).trans (d.stop_tame _)
  | completed => exact d.complete_tame w
  | fatal error => exact d.fail_tame error w
  | failed status =>
    dsimp only
    split
    · rename_i topology net heq
      obtain ⟨rfl, rfl⟩ := Topology.markFailure_none heq
      exact d.retry_tame status w
    · rename_i marked topology net heq
      exact .of_some_mirror (Topology.markFailure_some heq) rfl rfl

theorem connect_tame (d : Drive) (w : World) : w.Tame (d.connect w).2 := by
  unfold connect
  split
  · exact d.complete_tame w
  · split
    · exact .refl w
    · split
      · rename_i mirror net heq
        obtain ⟨rfl, rfl⟩ := Topology.leaseNext_none heq
        exact d.fail_tame _ w
      · rename_i lease mirror net heq
        have hl (w' : World) (h : World.Tame { w with mirror, net } w') : w.Tame w' :=
          .of_mirror { w with mirror, net } (Topology.leaseNext_some heq) rfl rfl h
        dsimp only
        split
        · exact hl _ (endStream_tame _ _ _ _)
        · split
          · exact hl _ (endStream_tame _ _ _ _)
          · split
            · exact hl _ ((tame_report _ _).trans (endStream_tame _ _ _ _))
            · exact .of_some_mirror (Topology.leaseNext_some heq) rfl rfl

theorem handOn_tame (d : Drive) (message : TopicMessage) (w : World) : w.Tame (d.handOn message w).2.2 := by
  unfold handOn
  split
  · exact .refl w
  · dsimp only
    split
    · exact .of_net rfl rfl rfl (.refl _)
    · exact w.tame_deliver _ _

theorem respected_tame (id : SubscriptionId) : Respected id Tame where
  refl := .refl
  trans := .trans
  report := tame_report
  sent w stream item := tame_net (w.net.unused_sent stream item)
  endClose w closing := tame_net (w.net.unused_endClose closing)
  stop _ := stop_tame _
  retry _ := retry_tame _
  endStream _ := endStream_tame _
  connect _ := connect_tame _
  handOn _ := handOn_tame _

theorem step_tame (d : Drive) (w : World) : w.Tame (d.step w).2 := (respected_tame d.id).step rfl w

end Drive

namespace Operation
open World

variable {β : Type}

/-- The book that the next step takes, if it takes one. -/
def book? (o : Operation β) (w : World) : Option AddressBook :=
  match o with
  | .refresh run _ => run.book? w
  | _ => none

theorem step_tame (o : Operation β) (w : World) (h : ∀ book, o.book? w = some book → book.toNetwork = []) :
    w.Tame (o.step w).2 := by
  cases o with
  | request run answer =>
    simp only [step]
    split
    · exact .refl w
    · exact run.step_tame w
  | refresh run answer =>
    simp only [step]
    split
    · exact .refl w
    · exact run.step_tame w h
  | sleep ends answer => exact .refl w
  | closing c events answer =>
    have he (events : List Event) (w : World) : w.Tame (events.foldl World.report w) := by
      induction events generalizing w with
      | nil => exact .refl w
      | cons event rest ih => exact (w.tame_report event).trans (ih _)
    exact (tame_net (w.net.unused_endClose c)).trans (he events _)
  | closingConsensus c teardown answer =>
    refine ((tame_net (w.net.unused_endClose c)).trans (tame_report _ (.topologyClosed teardown.channels))).trans ?_
    exact ⟨rfl, fun hnil => hnil, fun _ => rfl, fun _ _ => LocalNet.unused_beginClose _ _ w.mirror.closeTimeout⟩
  | closingMirror c teardown answer =>
    exact ((tame_net (w.net.unused_endClose c)).trans (tame_report _ _)).trans (tame_report _ _)
  | calling ticket answer => exact .refl w
  | collecting pull received answer =>
    simp only [step]
    split
    · exact tame_net (w.net.unused_sent _ _)
    · exact .refl w
    · exact .refl w
  | finished answer => exact .refl w

end Operation

namespace Task
open World

/-- The book that the next step takes, if it takes one. -/
def book? (t : Task) (w : World) : Option AddressBook :=
  match t with
  | .refresh run => run.book? w
  | .drive _ => none

theorem step_tame (t : Task) (w : World) (h : ∀ book, t.book? w = some book → book.toNetwork = []) :
    w.Tame (t.step w).2 := by
  cases t with
  | refresh run => exact run.step_tame w h
  | drive d => exact d.step_tame w

end Task

end LedgerNet
