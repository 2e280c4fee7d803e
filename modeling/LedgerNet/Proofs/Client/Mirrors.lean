import LedgerNet.Proofs.Client.Closing
import LedgerNet.Proofs.Topology.Listed

/-!
Which mirrors a client has, whatever goes on in it: those that it was built with or was told of last, until its close
has got to them. Requests and refreshes leave mirrors alone; subscriptions use them and move none of them.
-/
namespace LedgerNet

/-- The mirrors of a world stand where they stood in another one. -/
def World.KeepsMirrors (w w' : World) : Prop := w.mirror.Keeps w'.mirror

theorem World.KeepsMirrors.of_same {w w' : World} (h : w'.mirror = w.mirror) : w.KeepsMirrors w' := by
  rw [KeepsMirrors, h]
  exact .refl _

theorem World.KeepsMirrors.trans {a b c : World} (hab : a.KeepsMirrors b) (hbc : b.KeepsMirrors c) :
    a.KeepsMirrors c := Topology.Keeps.trans hab hbc

theorem World.reports_mirror (events : List Event) (w : World) : (events.foldl report w).mirror = w.mirror := by
  induction events generalizing w with
  | nil => rfl
  | cons event rest ih => exact ih _

namespace RequestRun

variable {α : Type}

theorem proceed_mirror (run : RequestRun α) (plan : RetryPlan) (error : ClientError) (w : World) :
    (run.proceed plan error w).2.mirror = w.mirror := by
  unfold proceed
  dsimp only
  split
  · unfold World.trigger
    split <;> rfl
  · rfl

theorem settle_mirror (run : RequestRun α) (node : AccountId) (endpoint : Option Endpoint) (outcome : Outcome)
    (value : Option α) (w : World) : (run.settle node endpoint outcome value w).2.mirror = w.mirror := by
  unfold settle
  dsimp only
  split
  · cases endpoint <;> dsimp only <;> split <;> rfl
  · rfl
  · split
    · exact run.proceed_mirror _ _ _
    · split
      · exact run.proceed_mirror _ _ _
      · rfl

theorem attempt_mirror (run : RequestRun α) (node : AccountId) (w : World) :
    (run.attempt node w).2.mirror = w.mirror := by
  unfold attempt
  split
  · exact run.settle_mirror _ _ _ _ w
  · dsimp only
    split
    · exact run.settle_mirror _ _ _ _ _
    · split
      · rfl
      · rfl

theorem receive_mirror (run : RequestRun α) (c : Calling) (w : World) : (run.receive c w).2.mirror = w.mirror := by
  unfold receive
  dsimp only
  split
  · exact run.settle_mirror _ _ _ _ w
  · split
    · exact run.settle_mirror _ _ _ _ w
    · split
      · rfl
      · split
        · split
          · rfl
          · exact run.settle_mirror _ _ _ _ _
        · exact run.settle_mirror _ _ _ _ _

theorem take_mirror (run : RequestRun α) (w : World) (turn : RequestTurn) :
    (run.take w turn).2.mirror = w.mirror := by
  cases turn with
  | attempt node p => exact attempt_mirror _ node w
  | _ => rfl

/-- A request has nothing to do with mirrors. -/
theorem step_mirror (run : RequestRun α) (w : World) : (run.step w).2.mirror = w.mirror := by
  unfold step
  split
  · rw [decide_eq]
    exact run.take_mirror w _
  · rfl
  · exact run.receive_mirror _ w
  · exact run.proceed_mirror _ _ _
  · rfl

end RequestRun

namespace Drive

theorem complete_mirror (d : Drive) (w : World) : (d.complete w).2.mirror = w.mirror := by
  unfold complete
  split
  · rfl
  · dsimp only
    split <;> rfl

theorem fail_mirror (d : Drive) (error : SubscriptionError) (w : World) : (d.fail error w).2.mirror = w.mirror := by
  unfold fail
  split
  · rfl
  · dsimp only
    split <;> rfl

theorem retry_mirror (d : Drive) (status : Status) (w : World) : (d.retry status w).2.mirror = w.mirror := by
  unfold retry
  split
  · exact d.fail_mirror _ w
  · split
    · exact d.fail_mirror _ w
    · rfl

theorem handOn_mirror (d : Drive) (message : TopicMessage) (w : World) :
    (d.handOn message w).2.2.mirror = w.mirror := by
  unfold handOn
  split
  · rfl
  · dsimp only
    split <;> rfl

/-- The end of a stream is judged: its mirror may be marked, and stays. -/
theorem endStream_keeps (d : Drive) (mirror : Endpoint) (how : StreamEnd) (w : World) :
    w.KeepsMirrors (d.endStream mirror how w).2 := by
  unfold endStream
  dsimp only
  have hs : w.KeepsMirrors (if d.receivedBefore < d.received then
      { w with mirror := w.mirror.markSuccess mirror w.now } else w) := by
    split
    · exact Topology.keeps_markSuccess _ _ _
    · exact .of_same rfl
  refine hs.trans ?_
  generalize (if d.receivedBefore < d.received then
      { w with mirror := w.mirror.markSuccess mirror w.now } else w) = w
  cases how with
  | cancelled => exact .of_same rfl
  | completed => exact .of_same (d.complete_mirror w)
  | fatal error => exact .of_same (d.fail_mirror error w)
  | failed status =>
    have hk := Topology.keeps_markFailure w.mirror mirror w.net
    dsimp only
    split
    · rename_i topology net heq
      rw [heq] at hk
      exact World.KeepsMirrors.trans (b := { w with mirror := topology, net }) hk (.of_same (d.retry_mirror status _))
    · rename_i marked topology net heq
      rw [heq] at hk
      exact hk

theorem connect_keeps (d : Drive) (w : World) : w.KeepsMirrors (d.connect w).2 := by
  unfold connect
  split
  · exact .of_same (d.complete_mirror w)
  · split
    · exact .of_same rfl
    · have hk := Topology.keeps_leaseNext w.mirror w.net
      split
      · rename_i mirror net heq
        rw [heq] at hk
        exact World.KeepsMirrors.trans (b := { w with mirror, net }) hk (.of_same (d.fail_mirror _ _))
      · rename_i lease mirror net heq
        rw [heq] at hk
        have hl (v : World) (h : World.KeepsMirrors { w with mirror, net } v) : w.KeepsMirrors v :=
          World.KeepsMirrors.trans (b := { w with mirror, net }) hk h
        dsimp only
        split
        · exact hl _ (endStream_keeps _ _ _ _)
        · split
          · exact hl _ (endStream_keeps _ _ _ _)
          · split
            · refine hl _ (.trans ?_ (endStream_keeps _ _ _ _))
              exact .of_same rfl
            · exact hk

theorem respected_keepsMirrors (id : SubscriptionId) : Respected id World.KeepsMirrors where
  refl _ := .of_same rfl
  trans := .trans
  report _ _ := .of_same rfl
  sent _ _ _ := .of_same rfl
  endClose _ _ := .of_same rfl
  stop _ _ := .of_same rfl
  retry _ status w := .of_same (retry_mirror _ status w)
  endStream _ := endStream_keeps _
  connect _ := connect_keeps _
  handOn _ message w := .of_same (handOn_mirror _ message w)

/-- A subscription moves no mirror. -/
theorem step_keeps (d : Drive) (w : World) : w.KeepsMirrors (d.step w).2 := (respected_keepsMirrors d.id).step rfl w

end Drive

namespace Activity

/-- Mirrors stay where they are in every step but the one in which a close clears them. -/
theorem step_keeps {a : Activity} (h : a.clearsMirror = false) (w : World) : w.KeepsMirrors (a.step w).2 := by
  cases a with
  | task t =>
    cases t with
    | refresh run => exact .of_same (run.step_mirror w).2
    | drive d => exact d.step_keeps w
  | operation o =>
    cases o with
    | request run answer =>
      simp only [step, Operation.step]
      split
      · exact .of_same rfl
      · exact .of_same (run.step_mirror w)
    | refresh run answer =>
      simp only [step, refresh_world]
      exact .of_same (run.step_mirror w).2
    | closing c events answer => exact .of_same (World.reports_mirror events _)
    | closingConsensus c teardown answer => cases h
    | collecting pull received answer =>
      simp only [step, Operation.step]
      split <;> exact .of_same rfl
    | _ => exact .of_same rfl

end Activity

theorem Endpoint.parse_of_parseText {s : String} {e : Endpoint} (h : parseText s = .ok e) : parse s = .ok e :=
  Json.mapError_ok h

namespace Client

/-- The mirrors of a client are those that its texts name, in their order. -/
theorem mirrorEntries_eq (mirrors : List String) :
    mirrorEntries mirrors = (mirrors.mapM Endpoint.parseText).map Topology.listing := by
  induction mirrors with
  | nil => rfl
  | cons mirror rest ih =>
    simp only [mirrorEntries] at ih ⊢
    rw [List.mapM_cons, List.mapM_cons, ih]
    cases Endpoint.parseText mirror with
    | error e => rfl
    | ok e => cases rest.mapM Endpoint.parseText <;> rfl

theorem read_of_mapM {mirrors : List String} {addresses : List Endpoint}
    (h : mirrors.mapM Endpoint.parseText = .ok addresses) : ∀ a ∈ addresses, Endpoint.parse a.text = .ok a := by
  intro a ha
  obtain ⟨s, -, hs⟩ := Json.mapM_ok h a ha
  exact Endpoint.parse_text (Endpoint.parse_of_parseText hs)

end Client

namespace ClientCall

/-- The addresses of which a call makes the mirrors of an open client. -/
def mirrors? : ClientCall → Option (List Endpoint)
  | .setMirrors mirrors => (mirrors.mapM Endpoint.parseText).toOption
  | _ => none

/-- A call changes the mirrors of an open client, if it says what they are to be. -/
theorem begin_mirror (call : ClientCall) (w : World) : (call.begin w).2.mirror =
    match w.closed, call.mirrors? with
    | false, some addresses => (w.mirror.replaceNetwork (Topology.listing addresses) w.now).2.2
    | _, _ => w.mirror := by
  cases hclosed : w.closed with
  | true =>
    cases call with
    | setBook book => rfl
    | setMaxNodes count => rfl
    | unsubscribe id => rfl
    | _ => simp only [begin, hclosed, if_true]
  | false =>
    cases call with
    | setMirrors mirrors =>
      simp only [begin, hclosed, Bool.false_eq_true, if_false, mirrors?, Client.mirrorEntries_eq]
      cases mirrors.mapM Endpoint.parseText <;> rfl
    | setSecurity secure =>
      simp only [begin, hclosed, Bool.false_eq_true, if_false, mirrors?, begun, Slot.setSecurity]
      split <;> rfl
    | setVerify verify =>
      simp only [begin, hclosed, Bool.false_eq_true, if_false, mirrors?, begun, Slot.setVerify]
      split <;> rfl
    | refresh =>
      simp only [begin, hclosed, Bool.false_eq_true, if_false, mirrors?]
      split <;> rfl
    | close ownsRuntime =>
      simp only [begin, hclosed, Bool.false_eq_true, if_false, mirrors?]
      exact (World.unsubscribeAll_same { w with closed := true }).2
    | setBook book => rfl
    | setMaxNodes count => rfl
    | unsubscribe id => rfl
    | _ => simp only [begin, hclosed, Bool.false_eq_true, if_false, mirrors?, begun] <;> rfl

/-- What a call makes of the mirrors for a list of addresses. -/
theorem begin_serves {w : World} {addresses : List Endpoint} (h : w.mirror.Serves addresses) (call : ClientCall) :
    (call.begin w).2.mirror.Serves (if w.closed then addresses else call.mirrors?.getD addresses) := by
  rw [begin_mirror]
  cases w.closed with
  | true => exact h
  | false =>
    cases hm : call.mirrors? with
    | none => exact h
    | some addresses' =>
      refine h.replace ?_ w.now
      cases call with
      | setMirrors mirrors => exact Client.read_of_mapM (Json.ok_of_toOption hm)
      | _ => cases hm

end ClientCall

namespace Scene

/-- The addresses of a client's mirrors after a move, given those before it. A close clears them. -/
def mirrorsAfter (s : Scene) (addresses : List Endpoint) : Move → List Endpoint
  | .call call => if s.world.closed then addresses else call.mirrors?.getD addresses
  | .go place =>
    match s.activities[place]? with
    | none => addresses
    | some a => if (a.waiting s.world).isOver s.world.now && a.clearsMirror then [] else addresses
  | .outside _ => addresses

/-- The addresses of a client's mirrors after some moves, the latest first: those that were set last, none once a close
has got to them. -/
def mirrors (s : Scene) (addresses : List Endpoint) : List Move → List Endpoint
  | [] => addresses
  | move :: past => (s.after past).mirrorsAfter (s.mirrors addresses past) move

theorem make_serves {s : Scene} {addresses : List Endpoint} (h : s.world.mirror.Serves addresses) (move : Move) :
    (s.make move).world.mirror.Serves (s.mirrorsAfter addresses move) := by
  cases move with
  | call call => exact call.begin_serves h
  | outside o => exact h
  | go place =>
    cases ha : s.activities[place]? with
    | none =>
      simp only [make, mirrorsAfter, ha]
      exact h
    | some a =>
      cases hover : (a.waiting s.world).isOver s.world.now with
      | false =>
        simp only [make, mirrorsAfter, ha, hover, Bool.false_eq_true, if_false, Bool.false_and]
        exact h
      | true =>
        simp only [make, mirrorsAfter, ha, hover, if_true, Bool.true_and]
        cases hc : a.clearsMirror with
        | false => exact h.keep (a.step_keeps hc s.world)
        | true =>
          have hclear := a.step_clear hc s.world
          simp only [follow, hclear, if_true]
          exact h.clear

/-- Whatever goes on in and around a client, its mirrors are those it was told of last. -/
theorem after_serves {s : Scene} {addresses : List Endpoint} (h : s.world.mirror.Serves addresses)
    (moves : List Move) : (s.after moves).world.mirror.Serves (s.mirrors addresses moves) := by
  induction moves with
  | nil => exact h
  | cons move past ih => exact make_serves ih move

end Scene

/-- Settings are accepted only if the mirrors that they name can be read. -/
theorem Config.mirrors_read {c : Config} (h : c.validate = .ok ()) :
    ∃ addresses, c.mirrors.mapM Endpoint.parseText = .ok addresses := by
  have hnone : badMirror? c.mirrors = none := by
    unfold validate at h
    repeat' split at h
    case h_2 hnone => exact hnone
    all_goals cases h
  generalize c.mirrors = mirrors at hnone
  induction mirrors with
  | nil => exact ⟨[], rfl⟩
  | cons mirror rest ih =>
    cases hp : Endpoint.parseText mirror with
    | error e => simp [badMirror?, hp] at hnone
    | ok e =>
      obtain ⟨addresses, hrest⟩ := ih (by simpa [badMirror?, hp] using hnone)
      refine ⟨e :: addresses, ?_⟩
      rw [List.mapM_cons, hp, hrest]
      rfl

namespace Client

theorem mirrorTopology_serves (setup : ClientSetup) {addresses : List Endpoint}
    (hread : ∀ a ∈ addresses, Endpoint.parse a.text = .ok a) (now : Instant) :
    (mirrorTopology setup (Topology.listing addresses) now).Serves addresses := by
  have hempty : Topology.Serves [] { Topology.empty (κ := String)
      { topologyOptions setup.config with secure := false, maxFailures := none } with ledger := setup.ledger } :=
    .of_nil rfl rfl rfl
  exact hempty.replace hread now

/-- A client is built from all settings that are accepted, with the mirrors that they name. -/
theorem build_mirror {setup : ClientSetup} (net : LocalNet) (hvalid : setup.config.validate = .ok ())
    {addresses : List Endpoint} (hread : setup.config.mirrors.mapM Endpoint.parseText = .ok addresses) :
    ∃ c, build setup net = .ok c ∧ c.world.mirror.Serves addresses := by
  have hentries : mirrorEntries setup.config.mirrors = .ok (Topology.listing addresses) := by
    rw [mirrorEntries_eq, hread]
    rfl
  refine ⟨_, by simp only [build, hvalid, hentries, bind, Except.bind]; rfl, ?_⟩
  exact mirrorTopology_serves setup (read_of_mapM hread) _

/-- The mirrors of a client that was built from accepted settings, whatever has been going on in and around it since.
They stand where plain traffic puts the addresses named last, each endpoint once, under the name that came last there.
So they are the addresses as they are listed exactly when none of these is on the TLS consensus port. -/
theorem mirrors_as_listed_iff (setup : ClientSetup) (net : LocalNet) (hvalid : setup.config.validate = .ok ()) :
    ∃ c addresses, build setup net = .ok c ∧ setup.config.mirrors.mapM Endpoint.parseText = .ok addresses ∧
      ∀ moves,
        let listed := Scene.mirrors ⟨c.world, []⟩ addresses moves
        let t := (Scene.after ⟨c.world, []⟩ moves).world.mirror
        t.Distinct ∧ (∀ e id, (e, id) ∈ t.sites ↔ Topology.named? false (Topology.listing listed) e = some id) ∧
          (t.AsListed listed ↔ ∀ a ∈ listed, a.port? ≠ some tlsPort) := by
  obtain ⟨addresses, hread⟩ := Config.mirrors_read hvalid
  obtain ⟨c, hbuild, hserves⟩ := build_mirror net hvalid hread
  refine ⟨c, addresses, hbuild, hread, fun moves => ?_⟩
  have hafter := Scene.after_serves (s := ⟨c.world, []⟩) hserves moves
  exact ⟨hafter.distinct, fun e id => hafter.plain ▸ hafter.installed e id, hafter.asListed_iff⟩

/-- Settings that name some mirrors. -/
def naming (mirrors : List String) : ClientSetup := { config := { mirrors } }

theorem mirrors_as_listed_twice :
    (naming ["m:50211", "m:443", "m:50211"]).config.validate = .ok () ∧
      ∃ c, build (naming ["m:50211", "m:443", "m:50211"]) {} = .ok c ∧
        c.world.mirror.AsListed [.remote "m" plainPort false, .remote "m" 443 false, .remote "m" plainPort false] := by
  have hvalid : (naming ["m:50211", "m:443", "m:50211"]).config.validate = .ok () := by rfl
  have hread : (naming ["m:50211", "m:443", "m:50211"]).config.mirrors.mapM Endpoint.parseText =
    .ok [.remote "m" plainPort false, .remote "m" 443 false, .remote "m" plainPort false] := by rfl
  obtain ⟨c, addresses, hbuild, hnamed, hmoves⟩ := mirrors_as_listed_iff _ {} hvalid
  cases hread.symm.trans hnamed
  have hports : ∀ a ∈ [Endpoint.remote "m" plainPort false, .remote "m" 443 false, .remote "m" plainPort false],
    a.port? ≠ some tlsPort := by decide
  exact ⟨hvalid, c, hbuild, (hmoves []).2.2.mpr hports⟩

/-- A mirror on the TLS consensus port is moved off it, and stands elsewhere than its name says. -/
theorem not_always_as_listed :
    ¬ ∀ (setup : ClientSetup) (net : LocalNet) (c : Client) (addresses : List Endpoint),
      build setup net = .ok c → setup.config.mirrors.mapM Endpoint.parseText = .ok addresses →
        c.world.mirror.AsListed addresses := by
  intro h
  have hvalid : (naming ["m:50212"]).config.validate = .ok () := by rfl
  have hread : (naming ["m:50212"]).config.mirrors.mapM Endpoint.parseText = .ok [.remote "m" tlsPort false] := by rfl
  obtain ⟨c, hbuild, hserves⟩ := build_mirror {} hvalid hread
  have hsite : (.remote "m" plainPort false, "m:50212") ∈ c.world.mirror.sites := by
    rw [hserves.installed, hserves.plain]
    decide
  obtain ⟨n, hn, hat, hid⟩ := Topology.mem_sites.mp hsite
  have hnamed := (h _ _ c _ hbuild hread).named n hn
  rw [hat, hid] at hnamed
  exact absurd hnamed (by decide)

end Client

end LedgerNet
