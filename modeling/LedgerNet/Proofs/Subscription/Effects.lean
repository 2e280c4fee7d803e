import LedgerNet.Subscription.Drive

/-!
What a step of a drive does to the world is put together of a few things, all done for the drive's own subscription.
What holds across each of them, and across one after another, holds across the step.
-/
namespace LedgerNet.Drive

variable {id : SubscriptionId} {R : World → World → Prop} {d : Drive}

theorem handOn_id (d : Drive) (message : TopicMessage) (w : World) : (d.handOn message w).2.1.id = d.id := by
  unfold handOn
  split <;> rfl

/-- A relation between worlds that holds across all that the drives of a subscription do in a step. -/
structure Respected (id : SubscriptionId) (R : World → World → Prop) : Prop where
  refl : ∀ w, R w w
  trans : ∀ {u v w}, R u v → R v w → R u w
  report : ∀ w event, R w (World.report w event)
  sent : ∀ (w : World) stream item, R w { w with net := w.net.sent stream item }
  endClose : ∀ (w : World) closing, R w { w with net := w.net.endClose closing }
  stop : ∀ {d : Drive}, d.id = id → ∀ w, R w (d.stop w).2
  retry : ∀ {d : Drive}, d.id = id → ∀ status w, R w (d.retry status w).2
  endStream : ∀ {d : Drive}, d.id = id → ∀ mirror how w, R w (d.endStream mirror how w).2
  connect : ∀ {d : Drive}, d.id = id → ∀ w, R w (d.connect w).2
  handOn : ∀ {d : Drive}, d.id = id → ∀ message w, R w (d.handOn message w).2.2

namespace Respected

theorem reportChunk (h : Respected id R) (d : Drive) (r : TopicResponse) (w : World) : R w (d.reportChunk r w) := by
  unfold Drive.reportChunk
  split
  · exact h.refl w
  · split
    · exact h.refl w
    · exact h.report w _

theorem accept (h : Respected id R) (hd : d.id = id) (mirror : Endpoint) (r : TopicResponse) (stream : Stream)
    (w : World) : R w (d.accept mirror r stream w).2 := by
  have hreported := h.reportChunk d r w
  unfold Drive.accept
  dsimp only
  refine h.trans hreported ?_
  generalize d.reportChunk r w = v
  generalize htaken : ({ d with
    chunks := (d.chunks.accept r).1, received := d.received + 1, last := some r.timestamp } : Drive) = d'
  have hd' : d'.id = id := by rw [← htaken, hd]
  -- what follows once the item is taken, whether a message came of it or not
  have hrest (going : Bool) (d'' : Drive) (u : World) (hd'' : d''.id = id) :
      R u (if (!going) = true then d''.endStream mirror .cancelled u
        else if d''.limitMet = true then d''.endStream mirror .completed u else d''.pull mirror stream u).2 := by
    split
    · exact h.endStream hd'' _ _ u
    · split
      · exact h.endStream hd'' _ _ u
      · exact h.refl u
  cases (d.chunks.accept r).2 with
  | none => exact hrest true d' v hd'
  | some message => exact h.trans (h.handOn hd' message v) (hrest _ _ _ ((handOn_id d' message v).trans hd'))

theorem receive (h : Respected id R) (hd : d.id = id) (mirror : Endpoint) (item : Except Status String)
    (stream : Stream) (w : World) : R w (d.receive mirror item stream w).2 := by
  unfold Drive.receive
  dsimp only
  refine h.trans (h.sent w stream item) ?_
  split
  · exact h.endStream hd _ _ _
  · split
    · exact h.endStream hd _ _ _
    · exact h.accept hd _ _ _ _

theorem step (h : Respected id R) (hd : d.id = id) (w : World) : R w (d.step w).2 := by
  unfold Drive.step
  dsimp only
  cases d.phase with
  | connecting => exact h.connect hd w
  | opening mirror ticket =>
    dsimp only
    split
    · exact h.endStream hd _ _ w
    · split
      · exact h.refl w
      · exact h.endStream hd _ _ w
      · exact h.refl w
  | receiving mirror pull =>
    dsimp only
    split
    · exact h.endStream hd _ _ w
    · split
      · exact h.receive hd _ _ _ w
      · exact h.endStream hd _ _ w
      · exact h.refl w
  | benching mirror health closing status =>
    exact h.trans (h.endClose w closing) (h.trans (h.report _ _) (h.retry hd status _))
  | pausing ends =>
    dsimp only
    split
    · exact h.trans (h.report w _) (h.stop hd _)
    · exact h.refl w
  | finished => exact h.refl w

end Respected

end LedgerNet.Drive
