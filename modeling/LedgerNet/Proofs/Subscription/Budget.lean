import LedgerNet.Proofs.Subscription.Listening
import LedgerNet.Proofs.Subscription.Rounds
import LedgerNet.Proofs.Time.Backoff
import LedgerNet.Proofs.Time.Wake

/-!
The budget of reconnects covers a subscription as a whole, whatever its mirrors do and however much arrives between
two failures, and so does the limit of its query.
-/
namespace LedgerNet

namespace Listening

open Drive

/-- Whenever the drive takes a step, nobody has unsubscribed. -/
def Uncancelled (l : Listening) : Prop :=
  ∀ n, (l.drive n).isFinished = false → (l.before n).isCancelled l.id = false

/-- How often the drive has turned to a mirror for a stream. -/
def streams (l : Listening) (n : Nat) : Nat := n.count fun k => ((l.drive k).lease? (l.before k)).isSome

/-- How often the drive has come back to ask for another stream. -/
def reconnects (l : Listening) (n : Nat) : Nat := n.count fun k => (l.drive (k + 1)).isConnecting

/-- How many items were taken, from all streams. -/
def consumed (l : Listening) (n : Nat) : Nat := n.count fun k => (l.drive k).taken?.isSome

/-- A stream fails in a step of the drive. -/
def FailsAt (l : Listening) (n : Nat) (status : Status) : Prop := (l.drive n).failure? (l.before n) = some status

/-- The errors that were reported to the subscriber, or in its place. -/
def told (l : Listening) (w : World) : List SubscriptionError := (l.drive 0).told w

/-- A step of the drive reports an error. -/
def Tells (l : Listening) (n : Nat) (error : SubscriptionError) : Prop :=
  l.told (l.after (n + 1)).2 = l.told (l.before n) ++ [error]

/-- When a pause ends that begins after some steps. The next reconnect comes behind it, and the delay doubles with each
that was made before. -/
def pauseEnd (l : Listening) (n : Nat) : Instant :=
  Instant.wake ((l.after n).2.now + min (Span.ofMillis 500 * 2 ^ min (l.reconnects n) 31) l.query.backoffCeiling)

/-- Each step of a drive is taken as soon as its wait is over. -/
def Prompt (l : Listening) : Prop :=
  ∀ n t, (l.drive n).waiting = .time t → (l.before n).now = max (l.after n).2.now t

variable {l : Listening} {n : Nat} {status : Status}

theorem streams_succ (l : Listening) (n : Nat) :
    l.streams (n + 1) = l.streams n + if ((l.drive n).lease? (l.before n)).isSome then 1 else 0 := Nat.count_succ _ n

theorem reconnects_succ (l : Listening) (n : Nat) :
    l.reconnects (n + 1) = l.reconnects n + if (l.drive (n + 1)).isConnecting then 1 else 0 := Nat.count_succ _ n

theorem consumed_succ (l : Listening) (n : Nat) :
    l.consumed (n + 1) = l.consumed n + if (l.drive n).taken?.isSome then 1 else 0 := Nat.count_succ _ n

/-- Where a drive stands in the counts of its run. -/
structure Reckoned (l : Listening) (n : Nat) : Prop where
  opened : (l.drive n).isFinished = false → (l.drive n).OpenOrLeft (l.after n).2
  attempt : (l.drive n).attempt = l.reconnects n
  received : (l.drive n).received = l.consumed n
  streams : l.streams n ≤ l.reconnects n + if (l.drive n).isConnecting then 0 else 1
  budget : l.reconnects n ≤ l.query.attemptBudget
  limit : 0 < l.query.limit.toNat → l.consumed n ≤ l.query.limit.toNat ∧
    ((l.drive n).isFinished = false → l.consumed n < l.query.limit.toNat)
  paused : ∀ ends, (l.drive n).phase = .pausing ends →
    l.reconnects n < l.query.attemptBudget ∧ ends = l.pauseEnd n
  benched : ∀ mirror health closing status, (l.drive n).phase = .benching mirror health closing status →
    ∃ k, n = k + 1 ∧ l.FailsAt k status ∧ l.reconnects k = l.reconnects n

/-- The subscription is open when a drive takes a step that is not finished. -/
theorem Reckoned.hears (h : l.Reckoned n) (hu : l.Uncancelled) (hrunning : (l.drive n).isFinished = false) :
    ∃ heard, (l.before n).Hears (l.drive n).id heard := by
  have hid : (l.drive n).id = l.id := (l.same n).id
  have hnot := hu n hrunning
  have hopen := h.opened hrunning
  obtain ⟨s, hs⟩ := hopen.exists_subscription
  rw [OpenOrLeft, hid] at hopen
  rw [hid] at hs ⊢
  rcases l.visited n (l.after n).2 with hsame | hleft
  · -- the drive has left the subscription open, for a subscriber that had left would be gone now
    rcases hopen with ⟨heard, hears⟩ | hcancelled
    · exact ⟨heard, hears.congr hsame⟩
    · have hnow : (l.before n).isCancelled l.id = true := (congrArg (·.any (·.cancelled)) hsame).trans hcancelled
      exact absurd (hnot.symm.trans hnow) (by simp)
  · have hrecord : (l.before n).subscriptions[l.id]? = some { s with closed := true, cancelled := true } :=
      hleft.trans (World.unsubscribed hs)
    have hnow : (l.before n).isCancelled l.id = true := by simp [World.isCancelled, hrecord]
    exact absurd (hnot.symm.trans hnow) (by simp)

/-- A step after which the drive does not ask for another stream. -/
theorem Reckoned.succ (h : l.Reckoned n) (hrunning : (l.drive n).isFinished = false)
    (hcarries : Carries (l.drive n) (l.drive (n + 1)) (if (l.drive n).taken?.isSome then 1 else 0))
    (hconnecting : (l.drive (n + 1)).isConnecting = false)
    (hopened : (l.drive (n + 1)).isFinished = false → (l.drive (n + 1)).OpenOrLeft (l.after (n + 1)).2)
    (hwithin : (l.drive (n + 1)).isFinished = false → (l.drive n).taken?.isSome = true →
      (l.drive (n + 1)).limitMet = false)
    (hpaused : ∀ ends, (l.drive (n + 1)).phase = .pausing ends →
      l.reconnects n < l.query.attemptBudget ∧ ends = l.pauseEnd (n + 1))
    (hbenched : ∀ mirror health closing status, (l.drive (n + 1)).phase = .benching mirror health closing status →
      l.FailsAt n status) : l.Reckoned (n + 1) := by
  have hreconnects : l.reconnects (n + 1) = l.reconnects n := by
    simp [reconnects_succ, hconnecting]
  have hconsumed := l.consumed_succ n
  have hreceived : (l.drive (n + 1)).received = l.consumed (n + 1) := by
    rw [hcarries.received, h.received, hconsumed]
  refine ⟨hopened, ?_, hreceived, ?_, ?_, ?_, ?_, ?_⟩
  · rw [hcarries.attempt, h.attempt, hreconnects]
  · have hstreams := h.streams
    rw [hreconnects, hconnecting, streams_succ]
    cases hc : (l.drive n).isConnecting with
    | true =>
      simp only [hc, if_true, Nat.add_zero] at hstreams
      simp only [Bool.false_eq_true, if_false]
      split <;> omega
    | false =>
      simpa [hc, lease_none hc] using hstreams
  · rw [hreconnects]
    exact h.budget
  · intro hlimit
    obtain ⟨-, hbelow⟩ := h.limit hlimit
    have hbelow := hbelow hrunning
    refine ⟨?_, ?_⟩
    · rw [hconsumed]
      split <;> omega
    · intro hnext
      cases htaken : (l.drive n).taken?.isSome with
      | false => simpa [hconsumed, htaken] using hbelow
      | true =>
        have hmet := hwithin hnext htaken
        rw [limitMet, (l.same (n + 1)).query, hreceived] at hmet
        simp only [Bool.and_eq_false_iff, decide_eq_false_iff_not, Nat.not_le] at hmet
        exact hmet.resolve_left (not_not.mpr hlimit)
  · rw [hreconnects]
    exact hpaused
  · intro mirror health closing status hp
    exact ⟨n, rfl, hbenched mirror health closing status hp, hreconnects.symm⟩

theorem Reckoned.settled (h : l.Reckoned n) (hrunning : (l.drive n).isFinished = false)
    (htaken : (l.drive n).taken? = none) (hcarries : Carries (l.drive n) (l.drive (n + 1)) 0)
    (hsettled : (l.drive n).Settles (l.before n) status (l.after (n + 1))) : l.Reckoned (n + 1) := by
  have hquery : (l.drive n).query = l.query := (l.same n).query
  have hid : (l.drive (n + 1)).id = (l.drive n).id := ((l.drive n).step_same (l.before n)).id
  have hcarries : Carries (l.drive n) (l.drive (n + 1)) (if (l.drive n).taken?.isSome then 1 else 0) := by
    simpa [htaken] using hcarries
  have hends (hp : (l.drive (n + 1)).phase = .finished) : l.Reckoned (n + 1) := by
    refine h.succ hrunning hcarries (by simp only [isConnecting, hp]) ?_ ?_ ?_ ?_
    all_goals simp [isFinished, hp]
  cases hsettled with
  | rejected refuses finished told => exact hends finished
  | exhausted accepts spent finished told => exact hends finished
  | pauses accepts left phase spared kept =>
    have hp : (l.drive (n + 1)).phase = _ := phase
    have hconnecting : (l.drive (n + 1)).isConnecting = false := by simp only [isConnecting, hp]
    rw [← hid] at kept
    refine h.succ hrunning hcarries hconnecting (fun _ => .inl kept) (by simp [htaken]) ?_ (by simp [hp])
    intro ends hpausing
    rw [hp, DrivePhase.pausing.injEq] at hpausing
    rw [hquery, h.attempt] at left
    refine ⟨left, ?_⟩
    have hreconnects : l.reconnects (n + 1) = l.reconnects n := by
      simp [reconnects_succ, hconnecting]
    rw [← hpausing, pauseEnd, hreconnects, spared.now, Span.streamBackoff_eq, h.attempt, hquery]

/-- A subscription with one reconnect, to a mirror that nobody serves. Its pause takes half a second. -/
def refused : Listening where
  codec := .json
  handlers := {}
  query := { topic := ⟨0, 0, 7⟩, maxAttempts := some 1 }
  world := { net := {}, consensus := .empty {}, mirror := (Topology.empty {}).enter 0 (.inProcess "m", "m") }
  meddle n w := if n = 3 then { w with net := { w.net with now := 500000000 } } else w
  visited n w := by split <;> exact .inl rfl

end Listening

end LedgerNet
