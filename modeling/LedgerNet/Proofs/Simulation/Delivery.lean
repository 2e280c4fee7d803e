import LedgerNet.Proofs.Simulation.Serving
import LedgerNet.Proofs.Simulation.TopicLog

/-!
A subscription to one simulated mirror that cuts its first streams short. However the streams are cut, the messages are
those of the log, and the counters tell how many items were sent and how many streams were cut.
-/
namespace LedgerNet

open Simulation Text Wire

/-- How many of so many items a query leaves when only its limit counts. -/
def TopicQuery.share (q : TopicQuery) (count : Nat) : Nat := if q.limit = 0 then count else min count q.limit.toNat

theorem TopicQuery.share_le (q : TopicQuery) (count : Nat) : q.share count ≤ count := by
  unfold share
  split
  · exact Nat.le_refl _
  · exact Nat.min_le_left _ _

namespace Simulation.Mirror

/-- How many streams are cut short until so many items have been sent, each of them at most once. -/
def cuts (breakAfter breaks count : Nat) : Nat :=
  if count = 0 then 0 else if breakAfter = 0 then breaks else min breaks ((count - 1) / breakAfter)

theorem cuts_whole {breakAfter breaks count : Nat} (h : ¬ (breakAfter < count ∧ 0 < breaks)) :
    cuts breakAfter breaks count = 0 := by
  unfold cuts
  split
  · rfl
  · split
    · omega
    · rcases Nat.eq_zero_or_pos breaks with rfl | hpos
      · exact Nat.zero_min _
      · have hzero : (count - 1) / breakAfter = 0 := Nat.div_eq_of_lt (by omega)
        rw [hzero, Nat.min_zero]

/-- Of a stream that is cut, the rest is still to come. -/
theorem cuts_cut {breakAfter breaks count : Nat} (h : breakAfter < count ∧ 0 < breaks) :
    cuts breakAfter breaks count = cuts breakAfter (breaks - 1) (count - breakAfter) + 1 := by
  obtain ⟨hlt, hpos⟩ := h
  have hcount : count ≠ 0 := by omega
  have hrest : count - breakAfter ≠ 0 := by omega
  rw [cuts, cuts, if_neg hcount, if_neg hrest]
  split
  · omega
  · rename_i hbreak
    have hquotient : (count - 1) / breakAfter = (count - breakAfter - 1) / breakAfter + 1 := by
      rw [← Nat.add_div_right _ (Nat.pos_of_ne_zero hbreak)]
      congr 1
      omega
    omega

/-- A cut is worth a reconnect unless a subscriber has a rule of its own. -/
theorem accepts_cut {h : Handlers} (hrule : h.retryWhen = none) (left : Nat) : h.accepts (cut left) = true := by
  have hreset : (Status.internal "upstream connect error: RST_STREAM").isStreamRetryable = true := by decide_cbv
  have hdown : (Status.unavailable "mirror restarting").isStreamRetryable = true := by decide_cbv
  simp only [Handlers.accepts, hrule, cut]
  split
  · exact hreset
  · exact hdown

/-- What a mirror answers to a query that was sent. -/
theorem openStream_sent (mirror : Mirror) {next : TopicQuery} {rest : List TopicResponse}
    (h : asked mirror.log (.ofQuery next) = rest) : mirror.openStream (encodeQuery next) =
      if mirror.breakAfter < rest.length ∧ 0 < mirror.breaksLeft then
        (.ok ⟨elements (rest.take mirror.breakAfter) ++ [.error (cut (mirror.breaksLeft - 1))], mirror.interval, false,
            true⟩, { mirror with breaksLeft := mirror.breaksLeft - 1 })
      else (.ok ⟨elements rest, mirror.interval, false, true⟩, mirror) := by
  simp only [openStream, decode_encodeQuery, h, List.length_map, elements, List.map_take]

/-- A query without bounds in time asks for the first items of a log. -/
theorem asked_unbounded (log : List TopicResponse) {q : TopicQuery} (hstart : q.start = none) (hstop : q.stop = none) :
    asked log (.ofQuery q) = log.take (q.share log.length) := by
  have hall : log.filter (spans (.ofQuery q)) = log := by
    rw [List.filter_eq_self]
    intro r _
    simp [spans, MirrorQuery.ofQuery, hstart, hstop]
  rw [asked_eq, hall, TopicQuery.share]
  by_cases hz : q.limit = 0
  · simp [MirrorQuery.ofQuery, hz]
  · rw [if_neg (show (MirrorQuery.ofQuery q).limit ≠ 0 from hz), if_neg hz, Nat.min_comm, ← List.take_eq_take_min]
    rfl

theorem metered_openStream (mirror : Mirror) (payload : String) {stream : Stream}
    (h : (mirror.openStream payload).1 = .ok stream) : stream.metered = true := by
  unfold openStream at h
  split at h
  · cases h
  · dsimp only at h
    split at h <;> cases h <;> rfl

end Simulation.Mirror

namespace Following

variable {f : Following} {n m served breaks : Nat} {got items rest : List TopicResponse} {mirror : Mirror}

/-- What the simulator shows after some steps: its mirror, and what it has counted. -/
structure Shows (f : Following) (n : Nat) (mirror : Mirror) (served breaks : Nat) : Prop where
  sees : (f.after n).2.Sees mirror
  served : (f.after n).2.net.metrics.served = served
  breaks : (f.after n).2.net.metrics.breaks = breaks
  metered : (f.drive n).phase.IsMetered

/-- Nobody but the drive has to do with the mirror, and nothing else that it sends is counted. -/
def Alone (f : Following) : Prop := ∀ (n : Nat) (w : World), w.Spares (f.meddle n w)

theorem Shows.before (h : f.Shows n mirror served breaks) (halone : f.Alone) :
    (f.before n).Sees mirror ∧ (f.before n).net.metrics.served = served ∧ (f.before n).net.metrics.breaks = breaks := by
  have hspares : (f.after n).2.Spares (f.before n) := halone n _
  exact ⟨hspares.sees mirror h.sees, hspares.served.trans h.served, hspares.breaks.trans h.breaks⟩

theorem Shows.idles (h : f.Shows n mirror served breaks) (halone : f.Alone)
    (hi : Drive.Idles (f.before n) (f.after (n + 1))) : f.Shows (n + 1) mirror served breaks := by
  obtain ⟨hsees, hserved, hbreaks⟩ := h.before halone
  exact ⟨hi.spares.sees mirror hsees, hi.spares.served.trans hserved, hi.spares.breaks.trans hbreaks, hi.metered⟩

theorem Shows.idle (h : f.Shows n mirror served breaks) (halone : f.Alone) (hi : (f.drive n).phase.isIdle = true) :
    f.Shows (n + 1) mirror served breaks :=
  h.idles halone ((f.drive n).idles_step (f.before n) hi h.metered)

theorem Shows.pausing (h : f.Shows n mirror served breaks) (halone : f.Alone) (hnm : n ≤ m)
    (hp : ∀ k, n ≤ k → k < m → (f.drive k).IsPausing) : f.Shows m mirror served breaks := by
  induction hnm with
  | refl => exact h
  | @step m hnm ih =>
    refine (ih fun k hk hlt => hp k hk (Nat.lt_succ_of_lt hlt)).idle halone ?_
    rcases hp m hnm (Nat.lt_succ_self m) with ⟨ends, hp⟩ | ⟨_, _, _, _, hp, -⟩ <;> rw [hp] <;> rfl

theorem Shows.finished (h : f.Shows n mirror served breaks) (halone : f.Alone) (hp : (f.drive n).phase = .finished)
    (hnm : n ≤ m) : f.Shows m mirror served breaks := by
  induction hnm with
  | refl => exact h
  | step hnm ih =>
    refine ih.idle halone ?_
    rw [finished_later hp hnm]
    rfl

/-- An element of a stream is counted as it is taken. -/
theorem Shows.element {endpoint : Endpoint} {ready : Instant} {item : Except Status String} {stream : Stream}
    (h : f.Shows n mirror served breaks) (halone : f.Alone) (hs : f.Stands n got)
    (hp : (f.drive n).phase = .receiving endpoint (.element ready item stream)) :
    match item with
    | .ok _ => f.Shows (n + 1) mirror (served + 1) breaks
    | .error _ => f.Shows (n + 1) mirror served (breaks + 1) := by
  have hmetered : stream.metered = true := h.metered stream (by rw [hp]; rfl)
  obtain ⟨hsees, hserved, hbreaks⟩ := h.before halone
  have hstep : f.after (n + 1) = (f.drive n).receive endpoint item stream (f.before n) := by
    rw [after_succ]
    simp only [Drive.step, hp, hs.hears_before.not_cancelled, Bool.false_eq_true, if_false]
  obtain ⟨hspares, hnext⟩ := (f.drive n).idles_receive endpoint item hmetered (f.before n)
  rw [← hstep] at hspares hnext
  have hsent : (f.before n).net.sent stream item =
      { (f.before n).net with metrics := (f.before n).net.metrics.sent item } := if_pos hmetered
  rw [hsent] at hspares
  have hafter : (f.after (n + 1)).2.Sees mirror := by
    refine hspares.sees mirror ⟨hsees.kept, ?_⟩
    obtain ⟨node, hnode, hoffers⟩ := hsees.offered
    exact ⟨node, hnode, hoffers.served, hoffers.opens, hoffers.opened⟩
  cases item with
  | ok payload => exact ⟨hafter, hspares.served.trans (congrArg (· + 1) hserved), hspares.breaks.trans hbreaks, hnext⟩
  | error status =>
    exact ⟨hafter, hspares.served.trans hserved, hspares.breaks.trans (congrArg (· + 1) hbreaks), hnext⟩

theorem Shows.takes {count : Nat} (h : f.Shows n mirror served breaks) (halone : f.Alone) (ht : f.Takes n count) :
    f.Shows (n + count) mirror (served + count) breaks := by
  induction count with
  | zero => exact h
  | succ count ih =>
    obtain ⟨_, _, _, _, _, hs, _, _, _, _, hphase⟩ := ht count (Nat.lt_succ_self count)
    exact (ih fun k hk => ht k (Nat.lt_succ_of_lt hk)).element halone hs hphase

/-- The drive asks the mirror for a stream, and the mirror answers. -/
theorem Shows.asks {next : TopicQuery} (h : f.Shows n mirror served breaks) (halone : f.Alone) (hs : f.Stands n got)
    (hp : (f.drive n).phase = .connecting) (hlast : HasNext got)
    (hresume : f.query.resume (got.getLast?.map (·.timestamp)) got.length = some next) :
    (∃ endpoint, (f.drive (n + 1)).phase = .opening endpoint (some (mirror.openStream (encodeQuery next)).1)) ∧
      (f.drive (n + 1)).attempt = (f.drive n).attempt ∧ f.Leads n (n + 1) ∧ f.Stands (n + 1) got ∧
      f.Shows (n + 1) (mirror.openStream (encodeQuery next)).2 served breaks := by
  obtain ⟨hsees, hserved, hbreaks⟩ := h.before halone
  obtain ⟨lease, topology, net, node, id, hturn, hchannel, hkept, hnode, hid, hoffers, hmetrics⟩ := hsees.turn
  obtain ⟨event, hphase, hworld, hattempt, hleads, hstands⟩ := hs.asks hp hlast hresume hturn hchannel
  have hreported : (net.report event).Offers node mirror := hoffers.congr ⟨rfl, rfl, rfl, rfl⟩ rfl rfl
  obtain ⟨hticket, hoffers', hmetrics'⟩ := hreported.openStream hid subscribeMethod (encodeQuery next)
  rw [hticket] at hphase
  refine ⟨⟨_, hphase⟩, hattempt, hleads, hstands, ⟨?_, ?_, ?_, ?_⟩⟩
  · rw [hworld]
    exact ⟨hkept, node, hnode, hoffers'⟩
  · rw [hworld]
    dsimp only
    rw [hmetrics']
    exact (congrArg Metrics.served hmetrics).trans hserved
  · rw [hworld]
    dsimp only
    rw [hmetrics']
    exact (congrArg Metrics.breaks hmetrics).trans hbreaks
  · intro stream hstream
    rw [hphase] at hstream
    refine mirror.metered_openStream (encodeQuery next) ?_
    cases hanswer : (mirror.openStream (encodeQuery next)).1 with
    | error status => simp [hanswer, DrivePhase.stream?] at hstream
    | ok other => simpa [hanswer, DrivePhase.stream?] using hstream

/-- A stream that is not cut gives all its items, and then all is done. -/
theorem Shows.whole {endpoint : Endpoint} {interval : Span} (hshows : f.Shows n mirror served breaks)
    (halone : f.Alone) (hgoing : ∀ n, f.handlers.stopsAt n = false) (h : f.Stands n got)
    (hp : (f.drive n).phase = .opening endpoint (some (.ok ⟨elements rest, interval, false, true⟩)))
    (hlimit : 0 < f.query.limit.toNat → (got ++ rest).length ≤ f.query.limit.toNat) :
    ∃ m, f.Leads n m ∧ f.Done m (got ++ rest) ∧ f.Shows m mirror (served + rest.length) breaks := by
  obtain ⟨hone, -, hstands, hphase⟩ := h.pulls hp
  have hreceives : f.Receives (n + 1) got rest [] false :=
    ⟨hstands, endpoint, _, interval, true, by rw [hphase, List.append_nil]⟩
  have hpulled : f.Shows (n + 1) mirror served breaks := hshows.idle halone (by rw [hp]; rfl)
  obtain ⟨htakes, hend⟩ := hreceives.through hgoing hlimit
  have htaken := hpulled.takes halone htakes
  have hleads := (Leads.one hone).trans htakes.leads
  rcases hend with ⟨-, -, hdone⟩ | ⟨hlast, -⟩
  · exact ⟨_, hleads, hdone, htaken⟩
  · obtain ⟨hleads', hdone⟩ := hlast.ended
    obtain ⟨_, _, _, _, hended⟩ := hlast.phase
    exact ⟨_, hleads.trans hleads', hdone, htaken.idle halone (by rw [hended]; rfl)⟩

/-- A stream that is cut gives its first items; the drive pauses, and is about to ask for the others. -/
theorem Shows.cut {endpoint : Endpoint} {interval : Span} {count : Nat} {status : Status}
    (hshows : f.Shows n mirror served breaks) (halone : f.Alone) (hgoing : ∀ n, f.handlers.stopsAt n = false)
    (ha : f.handlers.accepts status = true) (hb : (f.drive n).attempt < f.query.attemptBudget) (h : f.Stands n got)
    (hp : (f.drive n).phase =
      .opening endpoint (some (.ok ⟨elements (rest.take count) ++ [.error status], interval, false, true⟩)))
    (hcount : count < rest.length)
    (hlimit : 0 < f.query.limit.toNat → (got ++ rest).length ≤ f.query.limit.toNat) :
    ∃ m, f.Leads n m ∧ f.Stands m (got ++ rest.take count) ∧ (f.drive m).phase = .connecting ∧
      (f.drive m).attempt = (f.drive n).attempt + 1 ∧ f.Shows m mirror (served + count) (breaks + 1) := by
  obtain ⟨hone, hattempt, hstands, hphase⟩ := h.pulls hp
  have hreceives : f.Receives (n + 1) got (rest.take count) [.error status] false :=
    ⟨hstands, endpoint, _, interval, true, by rw [hphase]⟩
  have hpulled : f.Shows (n + 1) mirror served breaks := hshows.idle halone (by rw [hp]; rfl)
  have htaken : (rest.take count).length = count := List.length_take_of_le (Nat.le_of_lt hcount)
  have hless (hpos : 0 < f.query.limit.toNat) : (got ++ rest.take count).length < f.query.limit.toNat := by
    have hle := hlimit hpos
    rw [List.length_append] at hle ⊢
    omega
  obtain ⟨htakes, ⟨hpos, hmet, -⟩ | ⟨hlast, hattempt'⟩⟩ :=
    hreceives.through hgoing fun hpos => Nat.le_of_lt (hless hpos)
  · exact absurd hmet (Nat.not_le_of_lt (hless hpos))
  · have hserved := hpulled.takes halone htakes
    rw [htaken] at hlast hattempt' hserved htakes
    obtain ⟨hleads, hpauses, hattempt''⟩ := hlast.broken ha (by rwa [hattempt', hattempt])
    obtain ⟨hs, _, _, _, _, hbroken⟩ := hlast
    have hcounted : f.Shows (n + 1 + count + 1) mirror (served + count) (breaks + 1) :=
      hserved.element halone hs hbroken
    obtain ⟨m, hwakes, hpausing, hnext, hconnecting, hmore⟩ :=
      hpauses.leads (by rwa [hattempt'', hattempt', hattempt])
    refine ⟨m, ((Leads.one hone).trans htakes.leads).trans (hleads.trans hwakes), hnext, hconnecting, ?_,
      hcounted.pausing halone hwakes.1 hpausing⟩
    rw [hmore, hattempt'', hattempt', hattempt]

/-- Asking for one stream after the other, the drive receives all that its query asks for, and the counters tell how.
The induction is on the cuts that the mirror has left. -/
theorem Stands.delivers {log : List TopicResponse} (hlog : InOrder log) (halone : f.Alone)
    (hgoing : ∀ n, f.handlers.stopsAt n = false) (haccepts : ∀ left, f.handlers.accepts (Mirror.cut left) = true)
    (h : f.Stands n got) (hp : (f.drive n).phase = .connecting) (hshows : f.Shows n mirror served breaks)
    (hmirror : mirror.log = log) (hbudget : (f.drive n).attempt + mirror.breaksLeft ≤ f.query.attemptBudget)
    (hall : Mirror.asked log (.ofQuery f.query) = got ++ rest) (hlast : HasNext got) :
    ∃ m mirror', f.Leads n m ∧ f.Done m (got ++ rest) ∧ f.Shows m mirror' (served + rest.length)
      (breaks + Mirror.cuts mirror.breakAfter mirror.breaksLeft rest.length) := by
  induction hleft : mirror.breaksLeft using Nat.strongRecOn generalizing n got rest mirror served breaks with
  | ind left ih =>
    subst hleft
    cases hresume : f.query.resume (got.getLast?.map (·.timestamp)) got.length with
    | none =>
      have hnil := TopicQuery.resume_none hall hresume
      subst hnil
      obtain ⟨hstep, hleads, hdone⟩ := h.completes hp hresume
      refine ⟨n + 1, mirror, hleads, by rwa [List.append_nil], ?_⟩
      exact hshows.idles halone (hstep ▸ (f.drive n).idles_complete (f.before n))
    | some next =>
      have hlimit (hpos : 0 < f.query.limit.toNat) : (got ++ rest).length ≤ f.query.limit.toNat :=
        hall ▸ Mirror.length_asked log (q := .ofQuery f.query) hpos
      obtain ⟨⟨endpoint, hopening⟩, hattempt, hleads, hstands, hasked⟩ :=
        hshows.asks halone h hp hlast hresume
      rw [mirror.openStream_sent (hmirror ▸ TopicQuery.asked_resume hlog hall hlast hresume)] at hopening hasked
      by_cases hcut : mirror.breakAfter < rest.length ∧ 0 < mirror.breaksLeft
      · rw [if_pos hcut] at hopening hasked
        obtain ⟨m, hleads', hnext, hconnecting, hmore, hcounted⟩ :=
          hasked.cut halone hgoing (haccepts _) (by omega) hstands hopening hcut.1 hlimit
        have hsplit : got ++ rest = got ++ rest.take mirror.breakAfter ++ rest.drop mirror.breakAfter := by
          rw [List.append_assoc, List.take_append_drop]
        have hrest : rest.drop mirror.breakAfter ≠ [] := by
          rw [← List.length_pos_iff, List.length_drop]
          omega
        rw [hsplit] at hall ⊢
        have hsub := hall ▸ Mirror.asked_sublist log (.ofQuery f.query)
        obtain ⟨m', mirror', hleads'', hdone, hcounted'⟩ := ih (mirror.breaksLeft - 1) (by omega) hnext hconnecting
          hcounted hmirror (by dsimp only; omega) hall (hlog.hasNext hsub hrest) rfl
        refine ⟨m', mirror', (hleads.trans hleads').trans hleads'', hdone, ?_⟩
        have hserved : served + mirror.breakAfter + (rest.drop mirror.breakAfter).length = served + rest.length := by
          rw [List.length_drop]
          omega
        rw [hserved, List.length_drop] at hcounted'
        rw [Mirror.cuts_cut hcut, Nat.add_comm (Mirror.cuts ..) 1, ← Nat.add_assoc]
        exact hcounted'
      · rw [if_neg hcut] at hopening hasked
        obtain ⟨m, hleads', hdone, hcounted⟩ := hasked.whole halone hgoing hstands hopening hlimit
        exact ⟨m, mirror, hleads.trans hleads', hdone, by rwa [Mirror.cuts_whole hcut]⟩

/-- A subscription to a simulated mirror of a generated log that nobody cancels, with no bounds in time. It is handed the
messages that its items complete, with their bodies, and then its completion; its items are counted once each, and so
are the cuts. -/
theorem delivers_log (f : Following) {log : TopicLog} {start : Timestamp} {mirror : Mirror}
    (hchunks : log.chunks < UInt32.size) (hreaches : start.reaches (itemGap * (log.generate start).length) = true)
    (hlog : mirror.log = log.generate start) (hsees : f.world.Sees mirror) (halone : f.Alone)
    (hstart : f.query.start = none) (hstop : f.query.stop = none)
    (hbudget : mirror.breaksLeft ≤ f.query.attemptBudget)
    (haccepts : ∀ left, f.handlers.accepts (Mirror.cut left) = true) (hgoing : ∀ n, f.handlers.stopsAt n = false) :
    let count := f.query.share (log.generate start).length
    let messages := ChunkBuffer.messages ((log.generate start).take count)
    messages.map (·.contents) = (log.completed count).map log.body ∧
      (count = (log.generate start).length → log.completed count = List.range' 1 log.messages) ∧
      ∃ n, (∀ m < n, (f.drive m).waiting ≠ .forever) ∧ ∀ m ≥ n, (f.drive m).isFinished = true ∧
        f.heard m = messages.map .next ++ (if f.handlers.hearsCompletion then [.complete] else []) ∧
        (f.after m).2.net.metrics.served = f.world.net.metrics.served + count ∧
        (f.after m).2.net.metrics.breaks =
          f.world.net.metrics.breaks + Mirror.cuts mirror.breakAfter mirror.breaksLeft count := by
  intro count messages
  have hasked : Mirror.asked (log.generate start) (.ofQuery f.query) = [] ++ (log.generate start).take count :=
    Mirror.asked_unbounded _ hstart hstop
  have hcount : ((log.generate start).take count).length = count := List.length_take_of_le (f.query.share_le _)
  have hmade : f.world.Spares (f.after 0).2 := .of_still rfl ⟨rfl, rfl, rfl, rfl⟩
  have hshows : f.Shows 0 mirror f.world.net.metrics.served f.world.net.metrics.breaks :=
    ⟨hmade.sees mirror hsees, rfl, rfl, fun _ h => by cases h⟩
  obtain ⟨n, mirror', hleads, hdone, hend⟩ := f.stands_start.delivers (log.inOrder_generate hchunks hreaches) halone
    hgoing haccepts rfl hshows hlog (le_of_eq_of_le (Nat.zero_add _) hbudget) hasked (fun r hr => by cases hr)
  rw [hcount] at hend
  refine ⟨log.contents_generate hchunks start count, fun hall => hall ▸ log.completed_all hchunks start, n,
    fun m hm => hleads.2 m (Nat.zero_le m) hm, ?_⟩
  intro m hm
  have hlater := hend.finished halone hdone.1 hm
  obtain ⟨hfinished, hheard⟩ := hdone.told hm
  exact ⟨hfinished, hheard, hlater.served, hlater.breaks⟩

/-- Two messages, the second in two chunks. -/
def shortLog : TopicLog := ⟨⟨0, 0, 7⟩, 2, 2, 2⟩

/-- A mirror of them that will cut two streams behind their first item. -/
def shortMirror : Mirror := ⟨shortLog.generate ⟨1, 0⟩, 1, 2, 0⟩

/-- A subscription to the mirror, while the clock moves on. -/
def cutTwice : Following where
  handlers := {}
  query := { topic := ⟨0, 0, 7⟩ }
  world := {
    net := { services := [⟨"in-process:m", "m", .mirror shortMirror⟩] }
    consensus := .empty {}
    mirror := (Topology.empty {}).enter 0 (.inProcess "m", "m") }
  meddle _ w := { w with net := { w.net with now := w.net.now + Span.ofSeconds 1 } }
  undisturbed _ _ := rfl

theorem shortLog_length : (shortLog.generate ⟨1, 0⟩).length = 3 := by
  rw [shortLog.length_generate (by decide)]
  decide_cbv

theorem delivers_log_cutTwice : shortLog.chunks < UInt32.size ∧
    Timestamp.reaches ⟨1, 0⟩ (itemGap * (shortLog.generate ⟨1, 0⟩).length) = true ∧
    cutTwice.world.Sees shortMirror ∧ cutTwice.Alone ∧ shortMirror.breaksLeft ≤ cutTwice.query.attemptBudget ∧
    (∀ left, cutTwice.handlers.accepts (Mirror.cut left) = true) ∧ (∀ n, cutTwice.handlers.stopsAt n = false) ∧
    ∃ (messages : List TopicMessage) (n : Nat), messages.map (·.contents) =
        [Utf8.encode "message 1 on topic 0.0.7", Utf8.encode "message 2 on topic 0.0.7"] ∧
      ∀ m ≥ n, cutTwice.heard m = messages.map .next ++ [.complete] ∧
        (cutTwice.after m).2.net.metrics.served = 3 ∧ (cutTwice.after m).2.net.metrics.breaks = 2 := by
  have hchunks : shortLog.chunks < UInt32.size := by decide
  have hreaches : Timestamp.reaches ⟨1, 0⟩ (itemGap * (shortLog.generate ⟨1, 0⟩).length) = true := by
    rw [shortLog_length]
    decide
  have hsees : cutTwice.world.Sees shortMirror :=
    ⟨rfl, _, rfl, ⟨_, rfl, rfl⟩, fun _ => rfl, fun id hid => by cases hid⟩
  have halone : cutTwice.Alone := fun n w => .of_still rfl ⟨rfl, rfl, rfl, rfl⟩
  have hbudget : shortMirror.breaksLeft ≤ cutTwice.query.attemptBudget := by decide
  have haccepts : ∀ left, cutTwice.handlers.accepts (Mirror.cut left) = true := Mirror.accepts_cut rfl
  obtain ⟨hcontents, -, n, -, hend⟩ :=
    cutTwice.delivers_log hchunks hreaches rfl hsees halone rfl rfl hbudget haccepts fun _ => rfl
  have hcount : cutTwice.query.share (shortLog.generate ⟨1, 0⟩).length = 3 := shortLog_length
  rw [hcount] at hcontents hend
  refine ⟨hchunks, hreaches, hsees, halone, hbudget, haccepts, fun _ => rfl, _, n, hcontents.trans ?_, ?_⟩
  · decide_cbv
  · intro m hm
    obtain ⟨-, hheard, hserved, hbreaks⟩ := hend m hm
    exact ⟨hheard, hserved, hbreaks⟩

end Following

end LedgerNet
