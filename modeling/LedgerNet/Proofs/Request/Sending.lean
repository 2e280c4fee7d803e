import LedgerNet.Proofs.Request.Ending
import LedgerNet.Proofs.Topology.Operations

/-!
What a request sends, and to whom. One step in a request's life reaches a service: the step that begins an attempt at
the candidate whose turn it is, if a channel to it can be opened and the request can be encoded for it. What is sent is
encoded for the node that the channel was leased for, and it is that node whose answer the request takes.
-/
namespace LedgerNet

/-- Something that is sent: the channel it is sent on, and for whom the channel was leased. -/
structure Sending where
  node : AccountId
  channel : ChannelId
  payload : String
deriving DecidableEq, Repr

namespace RequestRun

variable {α : Type}

/-- What an attempt at a node sends. -/
def sentTo? (request : Request α) (node : AccountId) (w : World) : Option Sending :=
  match w.consensus.lease node w.net with
  | (none, _, _) => none
  | (some lease, _, _) =>
    match lease.channel, request.encode node with
    | .ok channel, .ok payload => some ⟨lease.id, channel, payload⟩
    | _, _ => none

/-- What a step sends. -/
def sent? (run : RequestRun α) (w : World) : Option Sending :=
  (run.attempted? w).bind fun node => sentTo? run.request node w

/-- What a step has to do with services: it reaches none, or calls one with what it sends and waits for its answer. -/
inductive Reaches (run : RequestRun α) (w : World) (after : RequestRun α × World) : Option Sending → Prop
  | none (silent : w.net.Silent after.2.net) (free : ∀ c, after.1.phase ≠ .calling c) : Reaches run w after none
  | service (s : Sending) (c : Calling) (net : LocalNet) (silent : w.net.Silent net)
      (call : (c.ticket, after.2.net) = net.call s.channel run.request.method s.payload)
      (at' : c.node = s.node) (phase : after.1.phase = .calling c)
      (encoded : run.request.encode s.node = .ok s.payload) : Reaches run w after (some s)

theorem Idle.reaches {run base : RequestRun α} {w : World} {after : RequestRun α × World} (h : Idle base w after) :
    Reaches run w after none := .none h.silent h.not_calling

/-- A lease of an identity is of one of its nodes. -/
theorem lease_id {t consensus : Topology AccountId} {node : AccountId} {net net' : LocalNet} {lease : Lease AccountId}
    (h : t.lease node net = (some lease, consensus, net')) : lease.id = node := by
  unfold Topology.lease at h
  split at h
  · cases h
  · rename_i n hn
    cases h
    have hmem : n ∈ t.nodesOf node := Topology.best_mem hn
    simpa using (List.mem_filter.mp hmem).2

theorem sentTo_node {request : Request α} {node : AccountId} {w : World} {s : Sending}
    (h : sentTo? request node w = some s) : s.node = node := by
  unfold sentTo? at h
  split at h
  · cases h
  · rename_i lease _ _ hlease
    split at h
    · cases h
      exact lease_id hlease
    · cases h

theorem attempt_reaches (run : RequestRun α) (node : AccountId) (w : World) :
    Reaches run w (run.attempt node w) (sentTo? run.request node w) := by
  have hl := silent_lease w.consensus node w.net
  unfold attempt sentTo?
  cases hlease : w.consensus.lease node w.net with
  | mk lease? rest =>
    obtain ⟨consensus, net⟩ := rest
    rw [hlease] at hl
    cases lease? with
    | none => exact (run.settle_idle _ _ _ _ w).reaches
    | some lease =>
      dsimp only at hl ⊢
      cases hc : lease.channel with
      | error status => exact ((run.settle_idle _ _ _ _ _).after _ hl).reaches
      | ok channel =>
        cases he : run.request.encode node with
        | error e => exact ((Idle.finish run _ _).after _ hl).reaches
        | ok payload =>
          have hid := lease_id hlease
          exact .service ⟨lease.id, channel, payload⟩ _ _
            ((hl.trans (net.silent_report _)).trans (LocalNet.silent_report _ _)) rfl hid.symm rfl (hid ▸ he)

theorem sent_none {run : RequestRun α} {w : World} (h : run.phase ≠ .deciding) : run.sent? w = none := by
  rw [sent?, attempted_none h, Option.bind_none]

/-- What a step reaches is what it is said to send. -/
theorem step_reaches (run : RequestRun α) (w : World) : Reaches run w (run.step w) (run.sent? w) := by
  cases ha : run.attempted? w with
  | none =>
    have hsent : run.sent? w = none := by rw [sent?, ha, Option.bind_none]
    rw [hsent]
    cases stepped run w with
    | idle _ _ idle => exact idle.reaches
    | failed node p _ attempted => rw [attempted] at ha; cases ha
    | called node p _ attempted => rw [attempted] at ha; cases ha
  | some node =>
    obtain ⟨hp, p, ht⟩ := attempted_some ha
    have hs : run.step w = { run with pending := p }.attempt node w := by
      rw [step_deciding hp, ht]
      rfl
    have hsent : run.sent? w = sentTo? run.request node w := by rw [sent?, ha, Option.bind_some]
    have hreaches : Reaches { run with pending := p } w _ (sentTo? run.request node w) := attempt_reaches _ node w
    rw [hs, hsent]
    generalize sentTo? run.request node w = sent at hreaches
    cases hreaches with
    | none silent free => exact .none silent free
    | service s c net silent call at' phase encoded => exact .service s c net silent call at' phase encoded

theorem start_phase (request : Request α) (policy : RetryPolicy) (refreshes : Bool) (w : World) :
    (start request policy refreshes w).phase = .deciding ∨
      (start request policy refreshes w).phase = .finished (.error .emptyTopology) := by
  unfold start
  dsimp only
  generalize (if request.isPinned then request.nodeIds.getD [] else w.consensus.select) = candidates
  cases candidates.isEmpty with
  | true => exact .inr rfl
  | false => exact .inl rfl

theorem proceed_not_ok (run : RequestRun α) (plan : RetryPlan) (error : ClientError) (w : World) (ex : Executed α) :
    (run.proceed plan error w).1.phase ≠ .finished (.ok ex) := by
  rcases (run.proceed_proceeds plan error w).phase with hphase | ⟨ends, hphase⟩
  · simp [hphase]
  · simp [hphase]

/-- A request succeeds with the value of an outcome, for the node behind it, and marks the endpoint it came from. -/
theorem settle_ok {run : RequestRun α} {node : AccountId} {endpoint : Option Endpoint} {outcome : Outcome}
    {value : Option α} {w : World} {ex : Executed α}
    (h : (run.settle node endpoint outcome value w).1.phase = .finished (.ok ex)) :
    value = some ex.value ∧ ex.node = node ∧ ex.attempts = run.pending.attempt ∧
      ∀ e, endpoint = some e →
        (run.settle node endpoint outcome value w).2.consensus = w.consensus.markSuccess e w.now := by
  unfold settle at h ⊢
  dsimp only at h ⊢
  split at h
  · split at h
    · cases h
    · cases h
      refine ⟨rfl, rfl, rfl, ?_⟩
      rintro e rfl
      rfl
  · cases h
  · split at h
    · exact absurd h (proceed_not_ok _ _ _ _ _)
    · split at h
      · exact absurd h (proceed_not_ok _ _ _ _ _)
      · cases h

theorem attempt_not_ok (run : RequestRun α) (node : AccountId) (w : World) (ex : Executed α) :
    (run.attempt node w).1.phase ≠ .finished (.ok ex) := by
  intro h
  unfold attempt at h
  split at h
  · cases (settle_ok h).1
  · dsimp only at h
    split at h
    · cases (settle_ok h).1
    · split at h <;> cases h

theorem take_not_ok (run : RequestRun α) (w : World) (turn : RequestTurn) (ex : Executed α) :
    (run.take w turn).1.phase ≠ .finished (.ok ex) := by
  cases turn with
  | attempt node p => exact attempt_not_ok _ node w ex
  | _ => simp [take, finish]

theorem receive_ok {run : RequestRun α} {c : Calling} {w : World} {ex : Executed α}
    (h : (run.receive c w).1.phase = .finished (.ok ex)) :
    ex.node = c.node ∧ ∃ response, run.request.value response c.node = .ok ex.value := by
  unfold receive at h
  split at h
  · cases (settle_ok h).1
  split at h
  · cases (settle_ok h).1
  · rename_i response _
    dsimp only at h
    split at h
    · cases h
    split at h
    · split at h
      · cases h
      · rename_i value hvalue
        obtain ⟨heq, hnode, -⟩ := settle_ok h
        cases heq
        exact ⟨hnode, response, hvalue⟩
    · cases (settle_ok h).1

/-- A request succeeds with the answer to its call, read for the node that was called. -/
theorem step_ok {run : RequestRun α} {w : World} {ex : Executed α} (h : (run.step w).1.phase = .finished (.ok ex)) :
    run.phase = .finished (.ok ex) ∨
      ∃ c response, run.phase = .calling c ∧ ex.node = c.node ∧ run.request.value response c.node = .ok ex.value := by
  cases hp : run.phase with
  | deciding =>
    rw [step_deciding hp] at h
    exact absurd h (take_not_ok _ _ _ _)
  | pausing ends =>
    simp only [step, hp] at h
    cases h
  | calling c =>
    simp only [step, hp] at h
    obtain ⟨hnode, response, hvalue⟩ := receive_ok h
    exact .inr ⟨c, response, rfl, hnode, hvalue⟩
  | benching b =>
    simp only [step, hp] at h
    exact absurd h (proceed_not_ok _ _ _ _ _)
  | finished result =>
    simp only [step, hp] at h
    exact .inl h

end RequestRun

namespace Course
open RequestRun

variable {α : Type}

/-- What was sent, in order. -/
def sent (c : Course α) (n : Nat) : List Sending :=
  (List.range n).filterMap fun k => (c.run k).sent? (c.before k)

theorem sent_succ (c : Course α) (n : Nat) : c.sent (n + 1) = c.sent n ++ ((c.run n).sent? (c.before n)).toList :=
  filterMap_range_succ _ n

/-- Everything that is sent is encoded for the node that its channel was leased for. -/
theorem sent_encoded {c : Course α} {n : Nat} {s : Sending} (h : s ∈ c.sent n) :
    c.request.encode s.node = .ok s.payload := by
  obtain ⟨k, -, hk⟩ := List.mem_filterMap.mp h
  have hreaches := step_reaches (c.run k) (c.before k)
  rw [hk] at hreaches
  cases hreaches with
  | service _ _ _ _ _ _ _ encoded => exact (c.counted k).request ▸ encoded

/-- A request waits for the answer to what it sent last, and succeeds with it. -/
def LastSent (c : Course α) (n : Nat) : Prop :=
  match (c.run n).phase with
  | .calling call => ∃ s, (c.sent n).getLast? = some s ∧ call.node = s.node
  | .finished (.ok ex) =>
    ∃ s response, (c.sent n).getLast? = some s ∧ ex.node = s.node ∧ c.request.value response s.node = .ok ex.value
  | _ => True

theorem lastSent_start (c : Course α) : c.LastSent 0 := by
  unfold LastSent
  rcases start_phase c.request c.policy c.refreshes c.world with hp | hp
  · simp [run, after, hp]
  · simp [run, after, hp]

theorem lastSent (c : Course α) (n : Nat) : c.LastSent n := by
  induction n with
  | zero => exact c.lastSent_start
  | succ n ih =>
    unfold LastSent
    split
    · rename_i call hp
      have hreaches := step_reaches (c.run n) (c.before n)
      rw [sent_succ]
      cases hsent : (c.run n).sent? (c.before n) with
      | none =>
        rw [hsent] at hreaches
        cases hreaches with
        | none _ free => exact absurd hp (free call)
      | some s =>
        rw [hsent] at hreaches
        cases hreaches with
        | service _ call' _ _ _ at' phase _ =>
          rw [run_succ, phase] at hp
          cases hp
          exact ⟨s, List.getLast?_concat, at'⟩
    · rename_i ex hp
      rw [run_succ] at hp
      -- the step that ends a request sends nothing
      have hsent : c.sent (n + 1) = c.sent n := by
        rw [sent_succ, sent_none, Option.toList_none, List.append_nil]
        rcases step_ok hp with hdone | ⟨call, -, hcalling, -⟩
        · simp [hdone]
        · simp [hcalling]
      rw [hsent]
      unfold LastSent at ih
      rcases step_ok hp with hdone | ⟨call, response, hcalling, hnode, hvalue⟩
      · simpa only [hdone] using ih
      · rw [hcalling] at ih
        obtain ⟨s, hlast, hat⟩ := ih
        rw [(c.counted n).request, hat] at hvalue
        exact ⟨s, response, hlast, hnode.trans hat, hvalue⟩
    · trivial

end Course

end LedgerNet
