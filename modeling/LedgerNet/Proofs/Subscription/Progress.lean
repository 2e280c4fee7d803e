import LedgerNet.Proofs.Subscription.Gate

/-!
How a drive that nobody cancels gets on. Each of its steps is the last one, which tells the subscriber that the
subscription has ended, or leaves less to be done: there are only so many reconnects, and each stream has only so many
elements.
-/
namespace LedgerNet

/-- Whether a subscriber listens for a delivery. -/
def Handlers.hears (h : Handlers) : Delivery → Bool
  | .next _ => true
  | .error _ => h.hearsErrors
  | .complete => h.hearsCompletion

/-- How much of a round is still to come. A round begins with asking for a stream and ends with the pause before the
next. -/
def DrivePhase.stage : DrivePhase → Nat
  | .finished => 0
  | .pausing _ => 1
  | .benching .. => 2
  | .receiving .. => 3
  | .opening .. => 4
  | .connecting => 5

def DrivePhase.elements : DrivePhase → Nat
  | .receiving _ (.element _ _ rest) => rest.elements.length + 1
  | _ => 0

namespace Drive

/-- Whether a drive is to go on from an item that no instant follows. -/
def IsStuck (d : Drive) : Prop :=
  d.phase = .connecting ∧ (d.query.resume d.last d.received).isSome = true ∧ d.hasNextInstant = false

/-- What is left of a drive: reconnects, then stages of the round, then elements of the stream. -/
def remaining (d : Drive) : Nat ×ₗ Nat ×ₗ Nat :=
  toLex (d.query.attemptBudget - d.attempt, toLex (d.phase.stage, d.phase.elements))

/-- A drive belongs to the same subscription as another. -/
structure Same (d d' : Drive) : Prop where
  id : d'.id = d.id
  codec : d'.codec = d.codec
  handlers : d'.handlers = d.handlers
  query : d'.query = d.query

theorem Same.refl (d : Drive) : Same d d := ⟨rfl, rfl, rfl, rfl⟩

theorem Same.trans {a b c : Drive} (hab : Same a b) (hbc : Same b c) : Same a c :=
  ⟨hbc.id.trans hab.id, hbc.codec.trans hab.codec, hbc.handlers.trans hab.handlers, hbc.query.trans hab.query⟩

theorem complete_same (d : Drive) (w : World) : Same d (d.complete w).1 := by
  unfold complete
  split <;> exact ⟨rfl, rfl, rfl, rfl⟩

theorem fail_same (d : Drive) (error : SubscriptionError) (w : World) : Same d (d.fail error w).1 := by
  unfold fail
  split <;> exact ⟨rfl, rfl, rfl, rfl⟩

theorem retry_same (d : Drive) (status : Status) (w : World) : Same d (d.retry status w).1 := by
  unfold retry
  split
  · exact d.fail_same _ w
  · split
    · exact d.fail_same _ w
    · exact ⟨rfl, rfl, rfl, rfl⟩

theorem endStream_same (d : Drive) (mirror : Endpoint) (how : StreamEnd) (w : World) :
    Same d (d.endStream mirror how w).1 := by
  unfold endStream
  dsimp only
  split
  · exact ⟨rfl, rfl, rfl, rfl⟩
  · exact d.complete_same _
  · exact d.fail_same _ _
  · split
    · exact d.retry_same _ _
    · exact ⟨rfl, rfl, rfl, rfl⟩

theorem connect_same (d : Drive) (w : World) : Same d (d.connect w).1 := by
  have hbefore : Same d { d with receivedBefore := d.received } := ⟨rfl, rfl, rfl, rfl⟩
  unfold connect
  split
  · exact d.complete_same w
  · split
    · exact ⟨rfl, rfl, rfl, rfl⟩
    · split
      · exact d.fail_same _ _
      · dsimp only
        split
        · exact hbefore.trans (endStream_same _ _ _ _)
        · split
          · exact hbefore.trans (endStream_same _ _ _ _)
          · split
            · exact hbefore.trans (endStream_same _ _ _ _)
            · exact ⟨rfl, rfl, rfl, rfl⟩

theorem handOn_same (d : Drive) (message : TopicMessage) (w : World) : Same d (d.handOn message w).2.1 := by
  unfold handOn
  split <;> exact ⟨rfl, rfl, rfl, rfl⟩

theorem accept_same (d : Drive) (mirror : Endpoint) (r : TopicResponse) (stream : Stream) (w : World) :
    Same d (d.accept mirror r stream w).1 := by
  have hrest (going : Bool) (d' : Drive) (u : World) (hd : Same d d') :
      Same d (if (!going) = true then d'.endStream mirror .cancelled u
        else if d'.limitMet = true then d'.endStream mirror .completed u else d'.pull mirror stream u).1 := by
    refine hd.trans ?_
    split
    · exact d'.endStream_same _ _ u
    · split
      · exact d'.endStream_same _ _ u
      · exact ⟨rfl, rfl, rfl, rfl⟩
  unfold accept
  dsimp only
  cases (d.chunks.accept r).2 with
  | none => exact hrest true _ _ ⟨rfl, rfl, rfl, rfl⟩
  | some message => exact hrest _ _ _ (Same.trans (b := { d with
      chunks := (d.chunks.accept r).1, received := d.received + 1, last := some r.timestamp }) ⟨rfl, rfl, rfl, rfl⟩
      (handOn_same _ message _))

theorem step_same (d : Drive) (w : World) : Same d (d.step w).1 := by
  unfold step
  dsimp only
  split
  · exact d.connect_same w
  · split
    · exact d.endStream_same _ _ w
    · split
      · exact .refl d
      · exact d.endStream_same _ _ w
      · exact ⟨rfl, rfl, rfl, rfl⟩
  · split
    · exact d.endStream_same _ _ w
    · split
      · unfold receive
        dsimp only
        split
        · exact d.endStream_same _ _ _
        · split
          · exact d.endStream_same _ _ _
          · exact d.accept_same _ _ _ _
      · exact d.endStream_same _ _ w
      · exact .refl d
  · exact d.retry_same _ _
  · split
    · exact ⟨rfl, rfl, rfl, rfl⟩
    · exact ⟨rfl, rfl, rfl, rfl⟩
  · exact .refl d

/-- Nothing but messages was heard. -/
def Unended (heard : List Delivery) : Prop := ∀ x ∈ heard, x.isTerminal = false

/-- A step of a drive whose subscription is open: either it is the last and says so, or less is left and a pause is
always one before a reconnect. -/
inductive Fares (d : Drive) (after : Drive × World) : Prop where
  | ends (heard : List Delivery) (last : Delivery) (finished : after.1.phase = .finished)
      (unended : Unended heard) (terminal : last.isTerminal = true)
      (told : after.2.HasHeard d.id (heard ++ if d.handlers.hears last then [last] else []))
  | goes (heard : List Delivery) (running : after.1.isFinished = false) (unended : Unended heard)
      (hears : after.2.Hears d.id heard) (less : after.1.remaining < d.remaining)
      (budget : ∀ ends, after.1.phase = .pausing ends → after.1.attempt < after.1.query.attemptBudget)

variable {d : Drive} {w : World} {heard : List Delivery}

theorem Fares.of_same {d' : Drive} {after : Drive × World} (h : d'.Fares after) (hs : Same d d')
    (hr : d'.remaining ≤ d.remaining) : d.Fares after := by
  cases h with
  | ends heard last finished unended terminal hheard =>
    rw [hs.id, hs.handlers] at hheard
    exact .ends heard last finished unended terminal hheard
  | goes heard running unended hears less budget =>
    rw [hs.id] at hears
    exact .goes heard running unended hears (lt_of_lt_of_le less hr) budget

/-- Further on in a round, less is left. -/
theorem remaining_lt {d' : Drive} (hq : d'.query = d.query) (ha : d'.attempt = d.attempt)
    (hs : d'.phase.stage < d.phase.stage) : d'.remaining < d.remaining := by
  simp only [remaining, hq, ha]
  exact Prod.Lex.toLex_lt_toLex.mpr (.inr ⟨rfl, Prod.Lex.toLex_lt_toLex.mpr (.inl hs)⟩)

theorem complete_fares (h : w.Hears d.id heard) (hm : Unended heard) : d.Fares (d.complete w) := by
  obtain ⟨hfinished, hheard⟩ := complete_open h
  exact .ends heard .complete hfinished hm rfl hheard

theorem fail_fares (h : w.Hears d.id heard) (hm : Unended heard) (error : SubscriptionError) :
    d.Fares (d.fail error w) := by
  have hclosed := h.close
  simp only [fail, h.not_closed, Bool.false_eq_true, if_false]
  refine .ends heard (.error error) rfl hm rfl ?_
  cases hh : d.handlers.hearsErrors with
  | true =>
    simp only [Handlers.hears, hh, if_true]
    exact (hclosed.deliver (.error error)).congr rfl
  | false =>
    simp only [Handlers.hears, hh, Bool.false_eq_true, if_false, List.append_nil]
    exact hclosed.congr rfl

theorem retry_fares (h : w.Hears d.id heard) (hm : Unended heard) (hstage : 1 < d.phase.stage) (status : Status) :
    d.Fares (d.retry status w) := by
  unfold retry
  split
  · exact fail_fares h hm _
  · split
    · exact fail_fares h hm _
    · rename_i hleft
      exact .goes heard rfl hm (h.congr rfl) (remaining_lt rfl rfl hstage) fun _ _ => Nat.lt_of_not_le hleft

theorem endStream_fares (h : w.Hears d.id heard) (hm : Unended heard) (hstage : 2 < d.phase.stage)
    {how : StreamEnd} (hhow : how ≠ .cancelled) (mirror : Endpoint) : d.Fares (d.endStream mirror how w) := by
  obtain ⟨v, -, hs, heq⟩ := d.endStream_eq mirror how w
  have hjudged : v.Hears d.id heard := h.congr (congrArg (·[d.id]?) hs)
  rw [heq]
  split
  · exact absurd rfl hhow
  · exact complete_fares hjudged hm
  · exact fail_fares hjudged hm _
  · split
    · refine retry_fares ?_ hm (Nat.lt_of_succ_lt hstage) _
      exact hjudged.congr rfl
    · exact .goes heard rfl hm (hjudged.congr rfl) (remaining_lt rfl rfl hstage) fun _ hp => by cases hp

theorem connect_fares (h : w.Hears d.id heard) (hm : Unended heard) (hp : d.phase = .connecting)
    (hfree : ¬ d.IsStuck) : d.Fares (d.connect w) := by
  have hstage : d.phase.stage = 5 := by rw [hp]; rfl
  have hbefore {after : Drive × World} (hf : { d with receivedBefore := d.received }.Fares after) : d.Fares after :=
    hf.of_same ⟨rfl, rfl, rfl, rfl⟩ (le_refl _)
  have hmore : 2 < ({ d with receivedBefore := d.received } : Drive).phase.stage := by
    rw [show ({ d with receivedBefore := d.received } : Drive).phase.stage = 5 from hstage]
    decide
  unfold connect
  split
  · exact complete_fares h hm
  · rename_i next hnext
    split
    · rename_i hlast
      exact absurd ⟨hp, by rw [hnext]; rfl, by simpa using hlast⟩ hfree
    · split
      · refine fail_fares ?_ hm _
        exact h.congr rfl
      · dsimp only
        split
        · refine hbefore (endStream_fares ?_ hm hmore (by simp) _)
          exact h.congr rfl
        · split
          · refine hbefore (endStream_fares ?_ hm hmore (by simp) _)
            exact h.congr rfl
          · split
            · rename_i hcancelled
              have hnot := h.not_cancelled
              exact absurd (hnot.symm.trans hcancelled) (by simp)
            · refine .goes heard rfl hm (h.congr rfl) (remaining_lt rfl rfl ?_) fun _ hp => by cases hp
              rw [hstage]
              exact Nat.lt_succ_self 4

theorem pull_elements (mirror : Endpoint) (stream : Stream) (now : Instant) :
    (DrivePhase.receiving mirror (stream.pull now)).elements ≤ stream.elements.length := by
  unfold Stream.pull
  split
  · rename_i item rest hrest
    simp [DrivePhase.elements, hrest]
  · split <;> exact Nat.zero_le _

theorem accept_fares (h : w.Hears d.id heard) (hm : Unended heard) {mirror : Endpoint} {ready : Instant}
    {item : Except Status String} {stream : Stream} (hp : d.phase = .receiving mirror (.element ready item stream))
    (hgoing : ∀ n, d.handlers.stopsAt n = false) (r : TopicResponse) : d.Fares (d.accept mirror r stream w) := by
  obtain ⟨d', w', hkeeps, hhears, heq⟩ := accept_open h hgoing mirror r stream
  have hid : d'.id = d.id := hkeeps.id
  have hm' : Unended (heard ++ (d.chunks.accept r).2.toList.map .next) := by
    intro x hx
    rcases List.mem_append.mp hx with hx | hx
    · exact hm x hx
    · obtain ⟨message, -, rfl⟩ := List.mem_map.mp hx
      rfl
  rw [heq]
  split
  · obtain ⟨hfinished, hheard⟩ := endStream_completed (hid ▸ hhears) mirror
    rw [hid, farewell, show d'.handlers = d.handlers from hkeeps.handlers] at hheard
    exact .ends _ .complete hfinished hm' rfl hheard
  · refine .goes _ rfl hm' (hhears.congr rfl) ?_ fun _ hp => by cases hp
    have hquery : d'.query = d.query := hkeeps.query
    have hattempt : d'.attempt = d.attempt := hkeeps.attempt
    have hless : (DrivePhase.receiving mirror (stream.pull w'.now)).elements < d.phase.elements := by
      rw [hp]
      exact Nat.lt_succ_of_le (pull_elements mirror stream w'.now)
    have hstage : d.phase.stage = 3 := by rw [hp]; rfl
    simp only [remaining, pull, hquery, hattempt, hstage]
    exact Prod.Lex.toLex_lt_toLex.mpr (.inr ⟨rfl, Prod.Lex.toLex_lt_toLex.mpr (.inr ⟨rfl, hless⟩)⟩)

/-- A step of a drive that nobody cancels, and that neither hangs nor breaks down. -/
theorem step_fares (h : w.Hears d.id heard) (hm : Unended heard) (hgoing : ∀ n, d.handlers.stopsAt n = false)
    (hrunning : d.isFinished = false) (hwaits : d.waiting ≠ .forever) (hfree : ¬ d.IsStuck)
    (hbudget : ∀ ends, d.phase = .pausing ends → d.attempt < d.query.attemptBudget) : d.Fares (d.step w) := by
  have hnot := h.not_cancelled
  cases hp : d.phase with
  | connecting =>
    simp only [step, hp]
    exact connect_fares h hm hp hfree
  | opening mirror ticket =>
    simp only [step, hp, hnot, Bool.false_eq_true, if_false]
    have hstage : d.phase.stage = 4 := by rw [hp]; rfl
    split
    · simp [waiting, hp] at hwaits
    · exact endStream_fares h hm (by rw [hstage]; decide) (by simp) mirror
    · refine .goes heard rfl hm (h.congr rfl) (remaining_lt rfl rfl ?_) fun _ hp => by cases hp
      rw [hstage]
      exact Nat.lt_succ_self 3
  | receiving mirror pull =>
    simp only [step, hp, hnot, Bool.false_eq_true, if_false]
    have hstage : 2 < d.phase.stage := by rw [hp]; exact Nat.lt_succ_self 2
    cases pull with
    | element ready item stream =>
      dsimp only
      unfold receive
      dsimp only
      split
      · refine endStream_fares ?_ hm hstage (by simp) mirror
        exact h.congr rfl
      · split
        · refine endStream_fares ?_ hm hstage (by simp) mirror
          exact h.congr rfl
        · refine accept_fares ?_ hm hp hgoing _
          exact h.congr rfl
    | ended => exact endStream_fares h hm hstage (by simp) mirror
    | never => simp [waiting, hp] at hwaits
  | benching mirror health closing status =>
    simp only [step, hp]
    refine retry_fares ?_ hm (by rw [hp]; exact Nat.lt_succ_self 1) status
    exact h.congr rfl
  | pausing ends =>
    simp only [step, hp, hnot, Bool.false_eq_true, if_false]
    refine .goes heard rfl hm (h.congr rfl) ?_ fun _ hp => by cases hp
    have hleft := hbudget ends hp
    refine Prod.Lex.toLex_lt_toLex.mpr (.inl ?_)
    show d.query.attemptBudget - (d.attempt + 1) < d.query.attemptBudget - d.attempt
    omega
  | finished => simp [isFinished, hp] at hrunning

theorem step_stuck (h : d.IsStuck) (w : World) : d.step w = ({ d with phase := .finished }, w) := by
  obtain ⟨hp, hnext, hlast⟩ := h
  obtain ⟨next, hnext⟩ := Option.isSome_iff_exists.mp hnext
  simp [step, hp, connect, hnext, hlast, breakDown]

theorem step_finished (h : d.phase = .finished) (w : World) : d.step w = (d, w) := by
  simp [step, h]

end Drive

end LedgerNet
