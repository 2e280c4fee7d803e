import LedgerNet.Proofs.Subscription.Effects
import LedgerNet.Proofs.Subscription.Streams

/-!
The gate of a subscription. Its drive hands messages on and ends it, and callers unsubscribe, between two callbacks or
from inside one. In whatever order all this happens, nothing passes the gate once it is closed, and what ends the
subscription closes the gate before it is heard.
-/
namespace LedgerNet

/-- Whether a delivery is the last word of a subscription. -/
def Delivery.isTerminal : Delivery → Bool
  | .next _ => false
  | .error _ | .complete => true

namespace Subscription

/-- What a subscriber was handed, in order. -/
def heard (s : Subscription) : List Delivery := s.deliveries.reverse.map (·.2)

/-- How often a subscriber was told that the subscription has ended. -/
def endings (s : Subscription) : Nat := s.heard.countP (·.isTerminal)

/-- All that can become of a subscription at once. -/
inductive Becomes (s : Subscription) : Subscription → Prop where
  | same : Becomes s s
  | left : Becomes s { s with closed := true, cancelled := true }
  | handed (passes : s.closed = false) (time : Instant) (message : TopicMessage) :
      Becomes s { s with deliveries := (time, .next message) :: s.deliveries }
  | handedLeft (passes : s.closed = false) (time : Instant) (message : TopicMessage) :
      Becomes s ⟨true, true, (time, .next message) :: s.deliveries⟩
  | ended (passes : s.closed = false) (time : Instant) (last : Delivery) (terminal : last.isTerminal = true) :
      Becomes s { s with closed := true, deliveries := (time, last) :: s.deliveries }
  | endedUnheard (passes : s.closed = false) : Becomes s { s with closed := true }

variable {s s' : Subscription}

/-- A closed gate stays closed, and nothing passes it. -/
theorem Becomes.closed (h : s.Becomes s') (hc : s.closed = true) : s'.closed = true ∧ s'.heard = s.heard := by
  cases h with
  | same => exact ⟨hc, rfl⟩
  | left => exact ⟨rfl, rfl⟩
  | handed passes | handedLeft passes | ended passes | endedUnheard passes =>
    rw [hc] at passes
    cases passes

/-- An ending is heard once, and only behind a closed gate. -/
structure Sound (s : Subscription) : Prop where
  once : s.endings ≤ 1
  unended : s.closed = false → s.endings = 0

theorem heard_cons (time : Instant) (d : Delivery) (s : Subscription) (closed cancelled : Bool) :
    (Subscription.mk closed cancelled ((time, d) :: s.deliveries)).heard = s.heard ++ [d] := by
  simp [heard]

theorem Becomes.sound (h : s.Becomes s') (hs : s.Sound) : s'.Sound := by
  have hnext (time : Instant) (message : TopicMessage) (closed cancelled : Bool) :
      (Subscription.mk closed cancelled ((time, .next message) :: s.deliveries)).endings = s.endings := by
    simp [endings, heard_cons, Delivery.isTerminal]
  cases h with
  | same => exact hs
  | left => exact ⟨hs.once, fun hc => by cases hc⟩
  | handed passes time message =>
    refine ⟨?_, fun _ => ?_⟩
    · rw [hnext]
      exact hs.once
    · rw [hnext]
      exact hs.unended passes
  | handedLeft passes time message =>
    refine ⟨?_, fun hc => by cases hc⟩
    rw [hnext]
    exact hs.once
  | ended passes time last terminal =>
    refine ⟨?_, fun hc => by cases hc⟩
    have hzero : s.heard.countP (·.isTerminal) = 0 := hs.unended passes
    simp [endings, heard_cons, terminal, hzero]
  | endedUnheard passes => exact ⟨hs.once, fun hc => by cases hc⟩

end Subscription

/-- Something that happens to a subscription: its drive hands it something, somebody unsubscribes, or all but the
subscription changes. An unsubscribe from inside a callback happens once the callback has started. -/
inductive World.Happens (id : SubscriptionId) (w : World) : World → Prop where
  | next (d : Drive) (own : d.id = id) (message : TopicMessage) : Happens id w (d.handOn message w).2.2
  | error (d : Drive) (own : d.id = id) (error : SubscriptionError) : Happens id w (d.fail error w).2
  | complete (d : Drive) (own : d.id = id) : Happens id w (d.complete w).2
  | unsubscribe : Happens id w (w.unsubscribe id)
  | elsewhere (w' : World) (same : w'.subscriptions[id]? = w.subscriptions[id]?) : Happens id w w'

/-- One world comes after another, after anything has happened in any order. -/
abbrev World.Later (id : SubscriptionId) : World → World → Prop := Relation.ReflTransGen (World.Happens id)

/-- A subscriber leaves: it unsubscribes, or its callback does while it is handed a message. -/
inductive World.Leaves (id : SubscriptionId) (w : World) : World → Prop where
  | between : Leaves id w (w.unsubscribe id)
  | inside (d : Drive) (own : d.id = id) (message : TopicMessage) (passes : w.isClosed id = false)
      (stops : d.handlers.stopsAt (d.delivered + 1) = true) : Leaves id w (d.handOn message w).2.2

namespace World

variable {id : SubscriptionId} {w w' : World} {s : Subscription}

/-- What a subscriber was handed, in order. -/
def heard (w : World) (id : SubscriptionId) : List Delivery := (w.takeDeliveries id).1.map (·.2)

theorem heard_eq (h : w.subscriptions[id]? = some s) : w.heard id = s.heard := by
  simp [heard, takeDeliveries, h, Subscription.heard]

theorem isClosed_eq (h : w.subscriptions[id]? = some s) : w.isClosed id = s.closed := by
  simp [isClosed, h]

theorem updated (h : w.subscriptions[id]? = some s) (f : Subscription → Subscription) :
    (w.updateSubscription id f).subscriptions[id]? = some (f s) := by
  simp [updateSubscription, h]

theorem unsubscribed (h : w.subscriptions[id]? = some s) :
    (w.unsubscribe id).subscriptions[id]? = some { s with closed := true, cancelled := true } := updated h _

/-- What a drive does when it has a message to hand on. -/
theorem handed (d : Drive) (message : TopicMessage) (h : w.subscriptions[d.id]? = some s) :
    (d.handOn message w).2.2.subscriptions[d.id]? = some (if s.closed then s
      else if d.handlers.stopsAt (d.delivered + 1) then ⟨true, true, (w.now, .next message) :: s.deliveries⟩
      else { s with deliveries := (w.now, .next message) :: s.deliveries }) := by
  have hdelivered : (w.deliver d.id (.next message)).subscriptions[d.id]? =
      some { s with deliveries := (w.now, .next message) :: s.deliveries } := updated h _
  unfold Drive.handOn
  rw [isClosed_eq h]
  split
  · exact h
  · dsimp only
    split
    · exact unsubscribed hdelivered
    · exact hdelivered

theorem failed (d : Drive) (error : SubscriptionError) (h : w.subscriptions[d.id]? = some s) :
    (d.fail error w).2.subscriptions[d.id]? = some (if s.closed then s
      else if d.handlers.hearsErrors then
        { s with closed := true, deliveries := (w.now, .error error) :: s.deliveries }
      else { s with closed := true }) := by
  have hclosed : (w.updateSubscription d.id fun s => { s with closed := true }).subscriptions[d.id]? =
      some { s with closed := true } := updated h _
  unfold Drive.fail
  rw [isClosed_eq h]
  split
  · exact h
  · dsimp only [Drive.stop]
    split
    · exact updated hclosed _
    · exact hclosed

theorem completed (d : Drive) (h : w.subscriptions[d.id]? = some s) :
    (d.complete w).2.subscriptions[d.id]? = some (if s.closed then s
      else if d.handlers.hearsCompletion then
        { s with closed := true, deliveries := (w.now, .complete) :: s.deliveries }
      else { s with closed := true }) := by
  have hclosed (event : Event) : ((w.updateSubscription d.id fun s => { s with closed := true }).report
      event).subscriptions[d.id]? = some { s with closed := true } := updated h _
  unfold Drive.complete
  rw [isClosed_eq h]
  split
  · exact h
  · dsimp only [Drive.stop]
    split
    · exact updated (hclosed _) _
    · exact hclosed _

theorem Happens.becomes (h : w.Happens id w') (hs : w.subscriptions[id]? = some s) :
    ∃ s', w'.subscriptions[id]? = some s' ∧ s.Becomes s' := by
  have hopen (hc : ¬ s.closed = true) : s.closed = false := (Bool.not_eq_true _).mp hc
  cases h with
  | next d own message =>
    subst own
    refine ⟨_, handed d message hs, ?_⟩
    split
    · exact .same
    · rename_i hc
      split
      · exact .handedLeft (hopen hc) w.now message
      · exact .handed (hopen hc) w.now message
  | error d own error =>
    subst own
    refine ⟨_, failed d error hs, ?_⟩
    split
    · exact .same
    · rename_i hc
      split
      · exact .ended (hopen hc) w.now (.error error) rfl
      · exact .endedUnheard (hopen hc)
  | complete d own =>
    subst own
    refine ⟨_, completed d hs, ?_⟩
    split
    · exact .same
    · rename_i hc
      split
      · exact .ended (hopen hc) w.now .complete rfl
      · exact .endedUnheard (hopen hc)
  | unsubscribe => exact ⟨_, unsubscribed hs, .left⟩
  | elsewhere _ same => exact ⟨s, same.trans hs, .same⟩

theorem Later.of_same {v : World} (h : Later id v w') (hs : v.subscriptions[id]? = w.subscriptions[id]?) :
    Later id w w' :=
  .head (.elsewhere v hs) h

/-- What holds of a subscription and is kept by all that can become of it holds later on. -/
theorem Later.keeps {P : Subscription → Prop} (hkeeps : ∀ {s s'}, Subscription.Becomes s s' → P s → P s')
    (h : Later id w w') (hs : w.subscriptions[id]? = some s) (hp : P s) :
    ∃ s', w'.subscriptions[id]? = some s' ∧ P s' := by
  induction h with
  | refl => exact ⟨s, hs, hp⟩
  | tail _ hstep ih =>
    obtain ⟨s', hs', hp'⟩ := ih
    obtain ⟨s'', hs'', hb⟩ := hstep.becomes hs'
    exact ⟨s'', hs'', hkeeps hb hp'⟩

theorem Later.sound (h : Later id w w') (hnew : w.subscriptions[id]? = some {}) :
    ∃ s, w'.subscriptions[id]? = some s ∧ s.Sound :=
  h.keeps Subscription.Becomes.sound hnew ⟨Nat.zero_le 1, fun _ => rfl⟩

/-- Nothing is heard of a closed subscription. -/
theorem Later.silent (h : Later id w w') (hs : w.subscriptions[id]? = some s) (hc : s.closed = true) :
    w'.heard id = w.heard id := by
  obtain ⟨s', hs', -, hheard⟩ := h.keeps (P := fun s' => s'.closed = true ∧ s'.heard = s.heard)
    (fun hb hp => ⟨(hb.closed hp.1).1, (hb.closed hp.1).2.trans hp.2⟩) hs ⟨hc, rfl⟩
  rw [heard_eq hs', heard_eq hs, hheard]

/-- Whoever leaves finds the gate closed, and was told of no ending if it was open until then. -/
theorem Leaves.closed (h : w.Leaves id w') (hs : w.subscriptions[id]? = some s) :
    ∃ s', w'.subscriptions[id]? = some s' ∧ s'.closed = true ∧ s'.endings = s.endings := by
  cases h with
  | between => exact ⟨_, unsubscribed hs, rfl, rfl⟩
  | inside d own message passes stops =>
    subst own
    rw [isClosed_eq hs] at passes
    have hhanded := handed d message hs
    rw [passes, stops] at hhanded
    refine ⟨_, hhanded, rfl, ?_⟩
    simp [Subscription.endings, Subscription.heard_cons, Delivery.isTerminal]

/-- How a subscriber is called back, from a world on in which its subscription is new. -/
structure Disciplined (id : SubscriptionId) (w : World) : Prop where
  once : ∀ w', Later id w w' → (w'.heard id).countP (·.isTerminal) ≤ 1
  /-- Nothing is heard after an ending. -/
  ended : ∀ w' w'' last, Later id w w' → last ∈ w'.heard id → last.isTerminal = true → Later id w' w'' →
    w''.heard id = w'.heard id
  /-- Nothing is heard after leaving. -/
  left : ∀ v w' w'', Later id w v → v.Leaves id w' → Later id w' w'' → w''.heard id = w'.heard id
  /-- Whoever leaves before the end is not told of one. -/
  leftFirst : ∀ v w' w'', Later id w v → v.isClosed id = false → v.Leaves id w' → Later id w' w'' →
    ∀ d ∈ w''.heard id, d.isTerminal = false

theorem disciplined (hnew : w.subscriptions[id]? = some {}) : Disciplined id w := by
  refine ⟨?_, ?_, ?_, ?_⟩
  · intro w' hl
    obtain ⟨s, hs, hsound⟩ := hl.sound hnew
    rw [heard_eq hs]
    exact hsound.once
  · intro w' w'' last hl hmem hterminal hl'
    obtain ⟨s, hs, hsound⟩ := hl.sound hnew
    refine hl'.silent hs ?_
    rw [heard_eq hs] at hmem
    have hpos : 0 < s.endings := List.countP_pos_iff.mpr ⟨last, hmem, hterminal⟩
    cases hc : s.closed with
    | true => rfl
    | false =>
      rw [hsound.unended hc] at hpos
      cases hpos
  · intro v w' w'' hl hleaves hl'
    obtain ⟨s, hs, -⟩ := hl.sound hnew
    obtain ⟨s', hs', hclosed, -⟩ := hleaves.closed hs
    exact hl'.silent hs' hclosed
  · intro v w' w'' hl hopen hleaves hl'
    obtain ⟨s, hs, hsound⟩ := hl.sound hnew
    obtain ⟨s', hs', hclosed, hendings⟩ := hleaves.closed hs
    rw [isClosed_eq hs] at hopen
    rw [hl'.silent hs' hclosed, heard_eq hs']
    have hzero : s'.heard.countP (·.isTerminal) = 0 := hendings.trans (hsound.unended hopen)
    simpa [List.countP_eq_zero] using hzero

end World

namespace Drive
open World

theorem stop_later (d : Drive) (w : World) : Later d.id w (d.stop w).2 := .single (.elsewhere _ rfl)

theorem complete_later (d : Drive) (w : World) : Later d.id w (d.complete w).2 := .single (.complete d rfl)

theorem fail_later (d : Drive) (error : SubscriptionError) (w : World) : Later d.id w (d.fail error w).2 :=
  .single (.error d rfl error)

theorem retry_later (d : Drive) (status : Status) (w : World) : Later d.id w (d.retry status w).2 := by
  unfold retry
  split
  · exact d.fail_later _ w
  · split
    · exact d.fail_later _ w
    · exact .single (.elsewhere _ rfl)

theorem endStream_later (d : Drive) (mirror : Endpoint) (how : StreamEnd) (w : World) :
    Later d.id w (d.endStream mirror how w).2 := by
  obtain ⟨v, -, hjudged, heq⟩ := d.endStream_eq mirror how w
  rw [heq]
  refine Later.of_same ?_ (congrArg (·[d.id]?) hjudged)
  split
  · exact Later.of_same (d.stop_later _) rfl
  · exact d.complete_later v
  · exact d.fail_later _ v
  · split
    · exact Later.of_same (d.retry_later _ _) rfl
    · exact .single (.elsewhere _ rfl)

theorem connect_later (d : Drive) (w : World) : Later d.id w (d.connect w).2 := by
  unfold connect
  split
  · exact d.complete_later w
  · split
    · exact .refl
    · split
      · exact Later.of_same (d.fail_later _ _) rfl
      · rename_i lease mirror net _
        dsimp only
        split
        · exact Later.of_same (endStream_later { d with receivedBefore := d.received } _ _ _) rfl
        · split
          · exact Later.of_same (endStream_later { d with receivedBefore := d.received } _ _ _) rfl
          · split
            · exact Later.of_same (endStream_later { d with receivedBefore := d.received } _ _ _) rfl
            · exact .single (.elsewhere _ rfl)

theorem respected_later (id : SubscriptionId) : Respected id (Later id) where
  refl _ := .refl
  trans := .trans
  report _ _ := .single (.elsewhere _ rfl)
  sent _ _ _ := .single (.elsewhere _ rfl)
  endClose _ _ := .single (.elsewhere _ rfl)
  stop hd w := hd ▸ stop_later _ w
  retry hd status w := hd ▸ retry_later _ status w
  endStream hd mirror how w := hd ▸ endStream_later _ mirror how w
  connect hd w := hd ▸ connect_later _ w
  handOn hd message _ := .single (.next _ hd message)

/-- Whatever a drive does, its subscription only hears of it through the gate. -/
theorem step_later (d : Drive) (w : World) : Later d.id w (d.step w).2 := (respected_later d.id).step rfl w

end Drive

end LedgerNet
