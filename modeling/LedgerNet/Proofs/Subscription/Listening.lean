import LedgerNet.Proofs.Subscription.Progress
import LedgerNet.Proofs.Wire.Mirror

/-!
A subscription from its start on, to which others do nothing but unsubscribe. Its callbacks keep to the discipline of
the gate. If nobody unsubscribes and no stream hangs, the drive comes to an end, and says so once; unless it is to
go on from an item at the end of time, where it breaks down.
-/
namespace LedgerNet

/-- A subscription, the world in which it is made, and what happens to the world before each step of its drive. Others
do nothing to the subscription but unsubscribe. -/
structure Listening where
  codec : MirrorCodec
  handlers : Handlers
  query : TopicQuery
  world : World
  meddle : Nat → World → World
  visited : ∀ n w, (meddle n w).subscriptions[world.subscribe.1]? = w.subscriptions[world.subscribe.1]? ∨
    (meddle n w).subscriptions[world.subscribe.1]? =
      (w.unsubscribe world.subscribe.1).subscriptions[world.subscribe.1]?

namespace Listening

open Drive

def id (l : Listening) : SubscriptionId := l.world.subscribe.1

/-- The drive after some steps, and the world as the last of them left it. -/
def after (l : Listening) : Nat → Drive × World
  | 0 => ({ id := l.id, codec := l.codec, handlers := l.handlers, query := l.query }, l.world.subscribe.2)
  | n + 1 => (l.after n).1.step (l.meddle n (l.after n).2)

def drive (l : Listening) (n : Nat) : Drive := (l.after n).1

/-- The world in which the next step after some is taken. -/
def before (l : Listening) (n : Nat) : World := l.meddle n (l.after n).2

/-- Nobody unsubscribes, not from inside a callback either. -/
structure Stays (l : Listening) : Prop where
  going : ∀ n, l.handlers.stopsAt n = false
  undisturbed : ∀ n, (l.before n).subscriptions[l.id]? = (l.after n).2.subscriptions[l.id]?

/-- No stream that is asked for hangs: each is opened or refused, and ends after its elements. -/
def StreamsEnd (l : Listening) : Prop := ∀ n, (l.drive n).isFinished = false → (l.drive n).waiting ≠ .forever

/-- From some step on the drive is finished, the subscription is closed, and its subscriber was told once that it has
ended, if it listens for that. -/
def EndsWell (l : Listening) : Prop :=
  ∃ n, ∀ m ≥ n, (l.drive m).isFinished = true ∧ (l.after m).2.isClosed l.id = true ∧
    ∃ last : Delivery, last.isTerminal = true ∧
      ((l.after m).2.heard l.id).filter (·.isTerminal) = if l.handlers.hears last then [last] else []

variable {l : Listening} {n m : Nat}

theorem after_succ (l : Listening) (n : Nat) : l.after (n + 1) = (l.drive n).step (l.before n) := rfl

theorem same (l : Listening) (n : Nat) :
    Same { id := l.id, codec := l.codec, handlers := l.handlers, query := l.query } (l.drive n) := by
  induction n with
  | zero => exact .refl _
  | succ n ih => exact ih.trans ((l.drive n).step_same (l.before n))

theorem later (l : Listening) (h : n ≤ m) : World.Later l.id (l.after n).2 (l.after m).2 := by
  induction h with
  | refl => exact .refl
  | @step k _ ih =>
    have hvisited : World.Later l.id (l.after k).2 (l.before k) := by
      rcases l.visited k (l.after k).2 with hv | hv
      · exact .single (.elsewhere _ hv)
      · exact .tail (.single .unsubscribe) (.elsewhere _ hv)
    have hstep : World.Later l.id (l.before k) (l.after (k + 1)).2 := by
      have hid : (l.drive k).id = l.id := (l.same k).id
      rw [after_succ, ← hid]
      exact (l.drive k).step_later (l.before k)
    exact (ih.trans hvisited).trans hstep

theorem fresh (l : Listening) : (l.after 0).2.subscriptions[l.id]? = some {} := by
  simp [after, id, World.subscribe]

/-- A drive that goes on hears, and has ended nothing. -/
structure Runs (l : Listening) (n : Nat) (heard : List Delivery) : Prop where
  hears : (l.after n).2.Hears l.id heard
  unended : Unended heard
  budget : ∀ ends, (l.drive n).phase = .pausing ends → (l.drive n).attempt < (l.drive n).query.attemptBudget

/-- The drive has ended, and the subscriber was told once. -/
def Over (l : Listening) (n : Nat) : Prop :=
  (l.drive n).phase = .finished ∧ ∃ heard last, Unended heard ∧ last.isTerminal = true ∧
    (l.after n).2.HasHeard l.id (heard ++ if l.handlers.hears last then [last] else [])

theorem not_finished (h : (l.drive n).isFinished = false) : (l.drive n).phase ≠ .finished := by
  intro hp
  simp [isFinished, hp] at h

theorem finished_later (h : (l.drive n).phase = .finished) (hm : n ≤ m) : (l.drive m).phase = .finished := by
  induction hm with
  | refl => exact h
  | @step k _ ih =>
    rw [drive, after_succ, step_finished ih]
    exact ih

/-- Once the drive is finished, a subscription that nobody disturbs stays as it is. -/
theorem Stays.kept (hs : l.Stays) (h : (l.drive n).phase = .finished) (hm : n ≤ m) :
    (l.after m).2.subscriptions[l.id]? = (l.after n).2.subscriptions[l.id]? := by
  induction hm with
  | refl => rfl
  | @step k hk ih =>
    rw [after_succ, step_finished (finished_later h hk)]
    exact (hs.undisturbed k).trans ih

/-- What one more step does to a drive that goes on. -/
theorem Runs.step {heard : List Delivery} (h : l.Runs n heard) (hs : l.Stays) (hends : l.StreamsEnd)
    (hrunning : (l.drive n).isFinished = false) (hfree : ¬ (l.drive n).IsStuck) :
    l.Over (n + 1) ∨ ((l.drive (n + 1)).isFinished = false ∧ (l.drive (n + 1)).remaining < (l.drive n).remaining ∧
      ∃ heard', l.Runs (n + 1) heard') := by
  have hid : (l.drive n).id = l.id := (l.same n).id
  have hhandlers : (l.drive n).handlers = l.handlers := (l.same n).handlers
  have hhears : (l.before n).Hears (l.drive n).id heard := by
    rw [hid]
    exact h.hears.congr (hs.undisturbed n)
  have hfares := step_fares hhears h.unended (hhandlers ▸ hs.going) hrunning (hends n hrunning) hfree h.budget
  rw [← after_succ] at hfares
  cases hfares with
  | ends heard' last finished unended terminal told =>
    rw [hid, hhandlers] at told
    exact .inl ⟨finished, heard', last, unended, terminal, told⟩
  | goes heard' running unended hears less budget =>
    rw [hid] at hears
    exact .inr ⟨running, less, heard', hears, unended, budget⟩

theorem runs_start (l : Listening) : l.Runs 0 [] :=
  ⟨⟨[], l.fresh, rfl⟩, fun _ hx => absurd hx List.not_mem_nil, fun _ hp => by cases hp⟩

theorem runs (hs : l.Stays) (hends : l.StreamsEnd) (h : (l.drive n).isFinished = false) : ∃ heard, l.Runs n heard := by
  induction n with
  | zero => exact ⟨[], l.runs_start⟩
  | succ n ih =>
    have hrunning : (l.drive n).isFinished = false := by
      cases hf : (l.drive n).isFinished with
      | false => rfl
      | true =>
        have hp : (l.drive n).phase = .finished := by
          unfold isFinished at hf
          split at hf
          · assumption
          · cases hf
        exact absurd (finished_later hp (Nat.le_succ n)) (not_finished h)
    have hfree : ¬ (l.drive n).IsStuck := by
      intro hstuck
      refine not_finished h ?_
      rw [drive, after_succ, step_stuck hstuck]
    obtain ⟨heard, hruns⟩ := ih hrunning
    rcases hruns.step hs hends hrunning hfree with hover | ⟨-, -, hnext⟩
    · exact absurd hover.1 (not_finished h)
    · exact hnext

/-- The induction is on what is left of the drive. -/
theorem Runs.over {heard : List Delivery} (h : l.Runs n heard) (hs : l.Stays) (hends : l.StreamsEnd)
    (hfree : ∀ n, ¬ (l.drive n).IsStuck) (hrunning : (l.drive n).isFinished = false) : ∃ m, l.Over m := by
  induction hleft : (l.drive n).remaining using WellFoundedLT.induction generalizing n heard with
  | ind left ih =>
    rcases h.step hs hends hrunning (hfree n) with hover | ⟨hnext, hless, heard', hruns⟩
    · exact ⟨n + 1, hover⟩
    · exact ih _ (hleft ▸ hless) hruns hnext rfl

theorem Over.endsWell (h : l.Over n) (hs : l.Stays) : l.EndsWell := by
  obtain ⟨hp, heard, last, hunended, hterminal, deliveries, hrecord, hheard⟩ := h
  refine ⟨n, fun m hm => ?_⟩
  have hkept := (hs.kept hp hm).trans hrecord
  refine ⟨by simp [isFinished, finished_later hp hm], by simp [World.isClosed, hkept], last, hterminal, ?_⟩
  have hnone : heard.filter (·.isTerminal) = [] := List.filter_eq_nil_iff.mpr fun x hx => by simp [hunended x hx]
  have hall : (l.after m).2.heard l.id = heard ++ if l.handlers.hears last then [last] else [] := by
    rw [World.heard_eq hkept, ← hheard]
    rfl
  rw [hall, List.filter_append, hnone, List.nil_append]
  split <;> simp [hterminal]

/-- A drive that breaks down ends in silence, and leaves the subscription open. -/
theorem Stays.not_endsWell (hs : l.Stays) (hends : l.StreamsEnd) (hstuck : (l.drive n).IsStuck) : ¬ l.EndsWell := by
  rintro ⟨k, hk⟩
  have hrunning : (l.drive n).isFinished = false := by simp [isFinished, hstuck.1]
  obtain ⟨heard, hruns⟩ := runs hs hends hrunning
  have hnext : l.after (n + 1) = ({ l.drive n with phase := .finished }, l.before n) :=
    (l.after_succ n).trans (step_stuck hstuck _)
  have hp : (l.drive (n + 1)).phase = .finished := by rw [drive, hnext]
  have hopen : (l.after (n + 1)).2.Hears l.id heard := by
    rw [hnext]
    exact hruns.hears.congr (hs.undisturbed n)
  obtain ⟨-, hclosed, -⟩ := hk (max (n + 1) k) (Nat.le_max_right _ _)
  have hstill := hopen.congr (hs.kept hp (Nat.le_max_left (n + 1) k))
  exact absurd (hclosed.symm.trans hstill.not_closed) (by simp)

/-- A subscription keeps its callbacks in order, whoever unsubscribes and whenever. If nobody does and no stream hangs,
it comes to an end and says so once, exactly when it never has to go on from an item at the end of time. -/
theorem disciplined_endsWell_iff (l : Listening) :
    (World.Disciplined l.id (l.after 0).2 ∧ ∀ n m, n ≤ m → World.Later l.id (l.after n).2 (l.after m).2) ∧
      (l.Stays → l.StreamsEnd → (l.EndsWell ↔ ∀ n, ¬ (l.drive n).IsStuck)) := by
  refine ⟨⟨World.disciplined l.fresh, fun n m hnm => l.later hnm⟩, ?_⟩
  intro hs hends
  constructor
  · intro hwell n hstuck
    exact hs.not_endsWell hends hstuck hwell
  · intro hfree
    obtain ⟨m, hover⟩ := l.runs_start.over hs hends hfree rfl
    exact hover.endsWell hs

/-- A subscription of a client that knows no mirror. -/
def unserved : Listening where
  codec := .json
  handlers := {}
  query := { topic := ⟨0, 0, 7⟩ }
  world := { net := {}, consensus := .empty {}, mirror := .empty {} }
  meddle _ w := w
  visited _ _ := .inl rfl

theorem endsWell_unserved : unserved.Stays ∧ unserved.StreamsEnd ∧ unserved.EndsWell := by
  have hfirst : (unserved.drive 1).phase = .finished := by cbv
  have hstays : unserved.Stays := ⟨fun _ => rfl, fun _ => rfl⟩
  have hends : unserved.StreamsEnd := by
    intro n hrunning
    cases n with
    | zero => decide_cbv
    | succ n => exact absurd (finished_later hfirst (Nat.le_add_left 1 n)) (not_finished hrunning)
  refine ⟨hstays, hends, (unserved.disciplined_endsWell_iff.2 hstays hends).mpr ?_⟩
  rintro n ⟨hphase, -, hstuck⟩
  cases n with
  | zero => cases hstuck
  | succ n =>
    rw [finished_later hfirst (Nat.le_add_left 1 n)] at hphase
    cases hphase

/-- An item stamped at the end of time. -/
def lastItem : TopicResponse := ⟨⟨Int64.maxValue, 999999999⟩, 1, [], [1], none⟩

/-- A subscription to a mirror that breaks its stream behind such an item. -/
def pastTheEnd : Listening where
  codec := .json
  handlers := {}
  query := { topic := ⟨0, 0, 7⟩ }
  world := {
    net := { services := [⟨"in-process:m", "m", .streaming {
      log := [.item (.ofResponse lastItem)]
      plans := [{ cutAfter := some 1, error := some (.unavailable "mirror restarting") }]
      ignoresLimit := false
      certificate := none }⟩] }
    consensus := .empty {}
    mirror := (Topology.empty {}).enter 0 (.inProcess "m", "m") }
  meddle _ w := w
  visited _ _ := .inl rfl

/-- What its stream sends behind the item. -/
def broken : Stream := ⟨[.error (.unavailable "mirror restarting")], 0, false, false⟩

theorem pastTheEnd_receiving : (pastTheEnd.drive 2).phase =
    .receiving (.inProcess "m") (.element 0 (.ok (Wire.encodeResponse lastItem)) broken) := by
  cbv

theorem pastTheEnd_accepts : pastTheEnd.after 3 = (pastTheEnd.drive 2).accept (.inProcess "m") lastItem broken
    { pastTheEnd.before 2 with net := (pastTheEnd.before 2).net.sent broken (.ok (Wire.encodeResponse lastItem)) } := by
  have hopen : (pastTheEnd.before 2).isCancelled (pastTheEnd.drive 2).id = false := by decide_cbv
  have hdecoded : (pastTheEnd.drive 2).codec.decodeResponse (Wire.encodeResponse lastItem) = .ok lastItem := by
    rw [(pastTheEnd.same 2).codec]
    exact Wire.decode_encodeResponse lastItem
  simp only [after_succ, step, pastTheEnd_receiving, hopen, receive, hdecoded, Bool.false_eq_true, if_false]

/-- The next step of a drive whose world is left alone. -/
def stepAlone (p : Drive × World) : Drive × World := p.1.step p.2

theorem pastTheEnd_onward (n : Nat) : pastTheEnd.after (n + 3) = stepAlone^[n] (pastTheEnd.after 3) := by
  induction n with
  | zero => rw [Nat.zero_add, Function.iterate_zero_apply]
  | succ n ih =>
    rw [Function.iterate_succ_apply', ← ih]
    rfl

theorem pastTheEnd_stuck : (pastTheEnd.drive (3 + 3)).IsStuck := by
  rw [drive, pastTheEnd_onward, pastTheEnd_accepts]
  exact ⟨by cbv, by decide_cbv, by decide_cbv⟩

theorem pastTheEnd_early : ∀ n < 3, (pastTheEnd.drive n).waiting ≠ .forever := by
  intro n hn
  interval_cases n
  all_goals decide_cbv

set_option maxRecDepth 2000 in
theorem pastTheEnd_late : ∀ n < 4, (pastTheEnd.drive (n + 3)).waiting ≠ .forever := by
  intro n hn
  rw [drive, pastTheEnd_onward, pastTheEnd_accepts]
  interval_cases n
  all_goals decide_cbv

theorem pastTheEnd_streamsEnd : pastTheEnd.StreamsEnd := by
  intro n hrunning
  rcases Nat.lt_or_ge n 3 with hn | hn
  · exact pastTheEnd_early n hn
  obtain ⟨k, rfl⟩ := Nat.exists_eq_add_of_le' hn
  rcases Nat.lt_or_ge k 4 with hk | hk
  · exact pastTheEnd_late k hk
  · have hp : (pastTheEnd.drive (3 + 3 + 1)).phase = .finished := by
      rw [drive, after_succ, step_stuck pastTheEnd_stuck]
    exact absurd (finished_later hp (by omega)) (not_finished hrunning)

theorem not_always_endsWell : ¬ ∀ l : Listening, l.Stays → l.StreamsEnd → l.EndsWell := by
  intro hall
  have hstays : pastTheEnd.Stays := ⟨fun _ => rfl, fun _ => rfl⟩
  exact hstays.not_endsWell pastTheEnd_streamsEnd pastTheEnd_stuck (hall pastTheEnd hstays pastTheEnd_streamsEnd)

end Listening

end LedgerNet
