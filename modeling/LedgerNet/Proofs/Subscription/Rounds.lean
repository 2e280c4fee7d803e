import LedgerNet.Proofs.Subscription.Following
import LedgerNet.Proofs.Subscription.Progress
import LedgerNet.Proofs.Transport.Silence

/-!
How a drive that nobody cancels gets from one stream to the next: when it turns to a mirror, which failures it meets
and what becomes of them, and which errors its subscriber is told of.
-/
namespace LedgerNet

def Delivery.error? : Delivery → Option SubscriptionError
  | .error e => some e
  | _ => none

/-- The topic whose subscription an event reports to have failed, and the error. -/
def Event.failure? : Event → Option (String × SubscriptionError)
  | .subscriptionFailed topic error => some (topic, error)
  | _ => none

namespace LocalNet

/-- The failures of subscriptions that were reported, the latest first. -/
def failures (net : LocalNet) : List (String × SubscriptionError) := net.events.filterMap Event.failure?

/-- No subscription was reported to have failed between two states of a network, and no time has passed. -/
structure Calm (net net' : LocalNet) : Prop where
  now : net'.now = net.now
  failures : net'.failures = net.failures

theorem Calm.refl (net : LocalNet) : Calm net net := ⟨rfl, rfl⟩

theorem Calm.trans {a b c : LocalNet} (hab : Calm a b) (hbc : Calm b c) : Calm a c :=
  ⟨hbc.now.trans hab.now, hbc.failures.trans hab.failures⟩

theorem calm_report (net : LocalNet) (event : Event) (h : event.failure? = none) : Calm net (net.report event) :=
  ⟨rfl, by simp [failures, report, h]⟩

theorem calm_endClose (net : LocalNet) (closing : Closing) : Calm net (net.endClose closing) :=
  foldl_keeps .refl .trans (fun net _ => net.calm_report _ rfl) _ net

end LocalNet

namespace Drive

/-- The mirror to which a drive turns for a stream in its next step. -/
def lease? (d : Drive) (w : World) : Option (Lease String) :=
  if d.isConnecting ∧ (d.query.resume d.last d.received).isSome ∧ d.hasNextInstant then
    (w.mirror.leaseNext w.net).1
  else none

theorem lease_none {d : Drive} {w : World} (h : d.isConnecting = false) : d.lease? w = none := by
  simp [lease?, h]

/-- How a stream fails in the next step of a drive: it cannot be opened, it is refused or it breaks. -/
def failure? (d : Drive) (w : World) : Option Status :=
  match d.phase with
  | .connecting => (d.lease? w).bind fun lease => match lease.channel with
    | .error status => some status
    | .ok _ => none
  | .opening _ (some (.error status)) => some status
  | .receiving _ (.element _ (.error status) _) => some status
  | _ => none

/-- The item that a drive takes from its stream in its next step. -/
def taken? (d : Drive) : Option TopicResponse :=
  match d.phase with
  | .receiving _ (.element _ (.ok payload) _) => (d.codec.decodeResponse payload).toOption
  | _ => none

/-- The errors of which a subscriber was told, or which were reported in its place if it does not listen for them. -/
def told (d : Drive) (w : World) : List SubscriptionError :=
  if d.handlers.hearsErrors then (w.heard d.id).filterMap Delivery.error?
  else (w.net.failures.filter (·.1 == d.topic)).reverse.map (·.2)

/-- Nothing is told of an error between two worlds, and no time passes. -/
structure Spared (d : Drive) (w w' : World) : Prop where
  now : w'.now = w.now
  told : d.told w' = d.told w

/-- A drive has used up as many reconnects as another, and has taken some items more. -/
structure Carries (d d' : Drive) (taken : Nat) : Prop where
  attempt : d'.attempt = d.attempt
  received : d'.received = d.received + taken

variable {d d' : Drive} {w w' w'' : World} {heard : List Delivery}

theorem Spared.refl (d : Drive) (w : World) : d.Spared w w := ⟨rfl, rfl⟩

theorem Spared.trans (h : d.Spared w w') (h' : d.Spared w' w'') : d.Spared w w'' :=
  ⟨h'.now.trans h.now, h'.told.trans h.told⟩

theorem told_same (h : Same d d') (w : World) : d'.told w = d.told w := by
  simp only [told, topic, h.id, h.handlers, h.query]

theorem Spared.of_same (h : d'.Spared w w') (hs : Same d d') : d.Spared w w' :=
  ⟨h.now, by rw [← told_same hs, ← told_same hs, h.told]⟩

theorem spared_of_heard (d : Drive) (hn : w.net.Calm w'.net)
    (hh : (w'.heard d.id).filterMap Delivery.error? = (w.heard d.id).filterMap Delivery.error?) : d.Spared w w' :=
  ⟨hn.now, by simp only [told, hn.failures, hh]⟩

/-- A change to everything but the subscriptions. -/
theorem spared_of_calm (d : Drive) (hn : w.net.Calm w'.net) (hs : w'.subscriptions = w.subscriptions) :
    d.Spared w w' :=
  d.spared_of_heard hn (by simp only [World.heard, World.takeDeliveries, hs])

theorem fail_carries (d : Drive) (error : SubscriptionError) (w : World) : Carries d (d.fail error w).1 0 := by
  unfold fail
  split <;> exact ⟨rfl, rfl⟩

/-- Whether it listens for errors or not, a subscriber is told of the one that ends its subscription. -/
theorem fail_told (h : w.Hears d.id heard) (error : SubscriptionError) :
    (d.fail error w).1.phase = .finished ∧ d.told (d.fail error w).2 = d.told w ++ [error] := by
  obtain ⟨deliveries, hd, -⟩ := h
  have hafter := World.failed d error hd
  have hopen : w.isClosed d.id = false := World.isClosed_eq hd
  refine ⟨by simp only [fail, hopen, Bool.false_eq_true, if_false, stop], ?_⟩
  unfold told
  cases hh : d.handlers.hearsErrors with
  | true =>
    rw [hh] at hafter
    rw [if_pos rfl, if_pos rfl, World.heard_eq hafter, World.heard_eq hd]
    simp [Subscription.heard, Delivery.error?]
  | false =>
    simp only [fail, hopen, hh, Bool.false_eq_true, if_false, stop]
    simp [World.report, World.updateSubscription, LocalNet.failures, LocalNet.report, Event.failure?]

/-- What becomes of a failure: it is not worth a reconnect, or no reconnect is left, or the drive pauses before the
next. -/
inductive Settles (d : Drive) (w : World) (status : Status) (after : Drive × World) : Prop where
  | rejected (refuses : d.handlers.accepts status = false) (finished : after.1.phase = .finished)
      (told : d.told after.2 = d.told w ++ [.terminal status])
  | exhausted (accepts : d.handlers.accepts status = true) (spent : d.query.attemptBudget ≤ d.attempt)
      (finished : after.1.phase = .finished) (told : d.told after.2 = d.told w ++ [.retriesExhausted status d.attempt])
  | pauses (accepts : d.handlers.accepts status = true) (left : d.attempt < d.query.attemptBudget)
      (phase : after.1.phase =
        .pausing (Instant.wake (w.now + Span.streamBackoff d.attempt d.query.backoffCeiling)))
      (spared : d.Spared w after.2) (kept : ∃ heard, after.2.Hears d.id heard)

theorem Settles.of_spared {status : Status} {after : Drive × World} (h : d'.Settles w' status after)
    (hs : Same d d') (ha : d'.attempt = d.attempt) (hw : d.Spared w w') : d.Settles w status after := by
  have htold := told_same hs
  cases h with
  | rejected refuses finished told =>
    rw [hs.handlers] at refuses
    rw [htold, htold, hw.told] at told
    exact .rejected refuses finished told
  | exhausted accepts spent finished told =>
    rw [hs.handlers] at accepts
    rw [hs.query, ha] at spent
    rw [htold, htold, hw.told, ha] at told
    exact .exhausted accepts spent finished told
  | pauses accepts left phase spared kept =>
    rw [hs.handlers] at accepts
    rw [hs.query, ha] at left
    rw [hs.query, ha, hw.now] at phase
    rw [hs.id] at kept
    exact .pauses accepts left phase (hw.trans (spared.of_same hs)) kept

theorem retry_settles (h : w.Hears d.id heard) (status : Status) :
    Carries d (d.retry status w).1 0 ∧ d.Settles w status (d.retry status w) := by
  unfold retry
  split
  · rename_i hrefused
    obtain ⟨hfinished, htold⟩ := fail_told h (.terminal status)
    exact ⟨d.fail_carries _ w, .rejected (by simpa using hrefused) hfinished htold⟩
  · rename_i haccepts
    split
    · rename_i hspent
      obtain ⟨hfinished, htold⟩ := fail_told h (.retriesExhausted status d.attempt)
      exact ⟨d.fail_carries _ w, .exhausted (by simpa using haccepts) hspent hfinished htold⟩
    · rename_i hleft
      have hspared : d.Spared w (w.report (.streamFailed d.topic d.attempt
          (Span.streamBackoff d.attempt d.query.backoffCeiling).millis status)) :=
        d.spared_of_calm (w.net.calm_report _ rfl) rfl
      exact ⟨⟨rfl, rfl⟩, .pauses (by simpa using haccepts) (Nat.lt_of_not_le hleft) rfl hspared ⟨heard, h.congr rfl⟩⟩

/-- What a failure leads to at once: the drive waits for the channel of the mirror to close, or goes on without. -/
inductive Meets (d : Drive) (w : World) (status : Status) (after : Drive × World) : Prop where
  | benches (phase : ∃ mirror health closing, after.1.phase = .benching mirror health closing status)
      (spared : d.Spared w after.2) (kept : ∃ heard, after.2.Hears d.id heard)
  | settles (settled : d.Settles w status after)

theorem Meets.of_spared {status : Status} {after : Drive × World} (h : d'.Meets w' status after)
    (hs : Same d d') (ha : d'.attempt = d.attempt) (hw : d.Spared w w') : d.Meets w status after := by
  cases h with
  | benches phase spared kept =>
    rw [hs.id] at kept
    exact .benches phase (hw.trans (spared.of_same hs)) kept
  | settles settled => exact .settles (settled.of_spared hs ha hw)

end Drive

/-- The failure of a stream that an error tells of. -/
def SubscriptionError.status? : SubscriptionError → Option Status
  | .terminal status | .retriesExhausted status _ => some status
  | .noMirrorNodes | .codec _ => none

namespace Drive

/-- A subscription is open, or its subscriber has just left. -/
def OpenOrLeft (d : Drive) (w : World) : Prop := (∃ heard, w.Hears d.id heard) ∨ w.isCancelled d.id = true

theorem OpenOrLeft.exists_subscription {d : Drive} {w : World} (h : d.OpenOrLeft w) :
    ∃ s, w.subscriptions[d.id]? = some s := by
  rcases h with ⟨heard, deliveries, hd, -⟩ | hleft
  · exact ⟨_, hd⟩
  · unfold World.isCancelled at hleft
    cases hs : w.subscriptions[d.id]? with
    | none => simp [hs] at hleft
    | some s => exact ⟨s, rfl⟩

def isStreaming (d : Drive) : Bool :=
  match d.phase with
  | .opening .. | .receiving .. => true
  | _ => false

/-- What a step leads to in which a drive turns to a mirror, or waits for a stream or for its next item. -/
inductive Comes (d : Drive) (w : World) (after : Drive × World) : Prop where
  | fails (status : Status) (failure : d.failure? w = some status) (carries : Carries d after.1 0)
      (meets : d.Meets w status after)
  | streams (failure : d.failure? w = none) (carries : Carries d after.1 (if d.taken?.isSome then 1 else 0))
      (within : d.taken?.isSome = true → after.1.limitMet = false) (phase : after.1.isStreaming = true)
      (spared : d.Spared w after.2)
      (kept : d.OpenOrLeft after.2)
  | ends (failure : d.failure? w = none) (carries : Carries d after.1 (if d.taken?.isSome then 1 else 0))
      (finished : after.1.phase = .finished)
      (told : ∃ errors, d.told after.2 = d.told w ++ errors ∧ ∀ e ∈ errors, e.status? = none)

variable {d : Drive} {w : World} {heard : List Delivery}

theorem Comes.waits {after : Drive × World} (failure : d.failure? w = none) (taken : d.taken? = none)
    (carries : Carries d after.1 0) (phase : after.1.isStreaming = true) (spared : d.Spared w after.2)
    (kept : after.2.Hears d.id heard) : d.Comes w after := by
  refine .streams failure ?_ ?_ phase spared (.inl ⟨heard, kept⟩)
  · simpa [taken] using carries
  · simp [taken]

theorem Comes.stops {after : Drive × World} (errors : List SubscriptionError) (failure : d.failure? w = none)
    (taken : d.taken? = none) (carries : Carries d after.1 0) (finished : after.1.phase = .finished)
    (told : d.told after.2 = d.told w ++ errors) (other : ∀ e ∈ errors, e.status? = none) : d.Comes w after := by
  refine .ends failure ?_ finished ⟨errors, told, other⟩
  simpa [taken] using carries

theorem Comes.attempt {after : Drive × World} (h : d.Comes w after) : after.1.attempt = d.attempt := by
  cases h with
  | fails _ _ carries => exact carries.attempt
  | streams _ carries => exact carries.attempt
  | ends _ carries => exact carries.attempt

/-- What a step leads to in which a drive takes an item. -/
inductive Takes (d : Drive) (w : World) (after : Drive × World) : Prop where
  | last (carries : Carries d after.1 1) (finished : after.1.phase = .finished) (told : d.told after.2 = d.told w)
  | more (carries : Carries d after.1 1) (within : after.1.limitMet = false) (phase : after.1.isStreaming = true)
      (spared : d.Spared w after.2)
      (kept : d.OpenOrLeft after.2)

/-- Once the channel of its mirror is closed, a drive deals with the failure for which the mirror was benched. -/
theorem step_benching (h : w.Hears d.id heard) {mirror : Endpoint} {health : NodeHealth} {closing : Closing}
    {status : Status} (hp : d.phase = .benching mirror health closing status) :
    Carries d (d.step w).1 0 ∧ d.Settles w status (d.step w) := by
  have hclosed : w.net.Calm (w.net.endClose closing) := w.net.calm_endClose closing
  simp only [step, hp]
  generalize hv : ({ w with net := w.net.endClose closing } : World).report
    (.nodeUnhealthy mirror health.backoff.millis health.failures) = v
  have hspared : d.Spared w v := by
    rw [← hv]
    exact d.spared_of_calm (hclosed.trans (LocalNet.calm_report _ _ rfl)) rfl
  have hkept : v.Hears d.id heard := by
    rw [← hv]
    exact h.congr rfl
  obtain ⟨hcarries, hsettles⟩ := retry_settles hkept status
  exact ⟨hcarries, hsettles.of_spared (.refl d) rfl hspared⟩

end Drive

end LedgerNet
