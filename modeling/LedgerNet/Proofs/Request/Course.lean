import Mathlib.Data.List.Dedup
import LedgerNet.Proofs.Request.Turn

/-!
A request from its start on, while anything at all happens beside it. Before each of its steps others may change
the world as they like, and the clock moves on at least until the wait of the request is over. They come in where the
request waits, and nowhere else: a turn of it, from the look at its candidates to the call, is a single step, in which
the node that was found is the one that is leased.
-/
namespace LedgerNet

/-- A request, the world it starts in, and what is done to the world before each of its steps, but in none of them. -/
structure Course (α : Type) where
  request : Request α
  policy : RetryPolicy
  refreshes : Bool
  world : World
  meddle : Nat → World → World

/-- The world as others leave it, once a wait that began in another is over. The clock never goes back. -/
def RequestRun.await {α : Type} (run : RequestRun α) (w w' : World) : World :=
  { w' with net := { w'.net with now := max w'.now (max w.now (run.waiting.instant?.getD 0)) } }

namespace Course

variable {α : Type}

/-- The request after some steps, and the world as the last of them left it. -/
def after (c : Course α) : Nat → RequestRun α × World
  | 0 => (.start c.request c.policy c.refreshes c.world, c.world)
  | n + 1 => (c.after n).1.step ((c.after n).1.await (c.after n).2 (c.meddle n (c.after n).2))

/-- The request after some steps. -/
def run (c : Course α) (n : Nat) : RequestRun α := (c.after n).1

/-- The world in which the next step after some is taken. -/
def before (c : Course α) (n : Nat) : World := (c.run n).await (c.after n).2 (c.meddle n (c.after n).2)

/-- The nodes at which attempts were begun, in order. -/
def attempts (c : Course α) (n : Nat) : List AccountId :=
  (List.range n).filterMap fun k => (c.run k).attempted? (c.before k)

/-- The nodes that were called, in order. -/
def calls (c : Course α) (n : Nat) : List AccountId :=
  (List.range n).filterMap fun k => (c.run k).called? (c.before k)

/-- How many calls were over, for an answer or for want of one. -/
def endedCalls (c : Course α) (n : Nat) : Nat := (List.range n).countP fun k => (c.run k).isCalling

theorem after_succ (c : Course α) (n : Nat) : c.after (n + 1) = (c.run n).step (c.before n) := rfl

theorem run_succ (c : Course α) (n : Nat) : c.run (n + 1) = ((c.run n).step (c.before n)).1 := rfl

theorem filterMap_range_succ {β : Type} (f : Nat → Option β) (n : Nat) :
    (List.range (n + 1)).filterMap f = (List.range n).filterMap f ++ (f n).toList := by
  rw [List.range_succ, List.filterMap_append]
  cases h : f n <;> simp [h]

theorem attempts_succ (c : Course α) (n : Nat) :
    c.attempts (n + 1) = c.attempts n ++ ((c.run n).attempted? (c.before n)).toList :=
  filterMap_range_succ _ n

theorem calls_succ (c : Course α) (n : Nat) :
    c.calls (n + 1) = c.calls n ++ ((c.run n).called? (c.before n)).toList :=
  filterMap_range_succ _ n

theorem endedCalls_succ (c : Course α) (n : Nat) :
    c.endedCalls (n + 1) = c.endedCalls n + if (c.run n).isCalling then 1 else 0 := by
  simp [endedCalls, List.range_succ, List.countP_append, List.countP_cons]

/-- What a request knows of itself is what happened: the counts agree with the attempts made, and keep within
the budgets. -/
structure Counted (c : Course α) (n : Nat) : Prop where
  request : (c.run n).request = c.request
  policy : (c.run n).policy = c.policy
  startedAt : (c.run n).startedAt = c.world.now
  attempt : (c.run n).pending.attempt = (c.attempts n).length
  visited : ∀ node, node ∈ (c.run n).pending.visited ↔ node ∈ c.attempts n
  once : (c.run n).pending.visited.Nodup
  attempts : (c.attempts n).length ≤ c.policy.maxAttempts
  visits : ∀ visits, c.policy.maxNodeVisits = some visits → (c.run n).pending.visited.length ≤ visits

theorem counted_start (c : Course α) : c.Counted 0 :=
  ⟨rfl, rfl, rfl, rfl, fun _ => Iff.rfl, .nil, Nat.zero_le _, fun _ _ => Nat.zero_le _⟩

/-- A step that begins no attempt. -/
theorem Counted.idle {c : Course α} {n : Nat} (h : c.Counted n)
    (ha : (c.run n).attempted? (c.before n) = none) (hk : RequestRun.Kept (c.run n) (c.run (n + 1))) :
    c.Counted (n + 1) := by
  have hl : c.attempts (n + 1) = c.attempts n := by simp [attempts_succ, ha]
  refine ⟨hk.request.trans h.request, hk.policy.trans h.policy, hk.startedAt.trans h.startedAt, ?_, ?_, ?_, ?_, ?_⟩
  · rw [hk.attempt, hl]
    exact h.attempt
  · rw [hk.visited, hl]
    exact h.visited
  · rw [hk.visited]
    exact h.once
  · rw [hl]
    exact h.attempts
  · rw [hk.visited]
    exact h.visits

/-- A step that begins an attempt. -/
theorem Counted.attempted {c : Course α} {n : Nat} (h : c.Counted n) {node : AccountId}
    {p : PendingRequest AccountId} (ht : (c.run n).turn (c.before n) = .attempt node p)
    (ha : (c.run n).attempted? (c.before n) = some node)
    (hk : RequestRun.Kept { c.run n with pending := p } (c.run (n + 1))) : c.Counted (n + 1) := by
  have hl : c.attempts (n + 1) = c.attempts n ++ [node] := by simp [attempts_succ, ha]
  obtain ⟨hlt, hp, hv, hvisits⟩ := RequestRun.turn_attempt ht
  rw [h.policy] at hlt hvisits
  rw [h.attempt] at hlt
  have hvisited : (c.run (n + 1)).pending.visited = if (c.run n).pending.visited.contains node then
      (c.run n).pending.visited else node :: (c.run n).pending.visited := hk.visited.trans hv
  refine ⟨hk.request.trans h.request, hk.policy.trans h.policy, hk.startedAt.trans h.startedAt, ?_, ?_, ?_, ?_, ?_⟩
  · rw [hk.attempt, hl, List.length_append, ← h.attempt]
    exact hp
  · intro other
    rw [hvisited, hl, List.mem_append, List.mem_singleton, ← h.visited other]
    split
    · rename_i hmem
      have hmem : node ∈ (c.run n).pending.visited := List.contains_iff_mem.mp hmem
      refine ⟨.inl, ?_⟩
      rintro (ho | rfl)
      · exact ho
      · exact hmem
    · rw [List.mem_cons, or_comm]
  · rw [hvisited]
    split
    · exact h.once
    · rename_i hn
      exact List.nodup_cons.mpr ⟨fun hm => hn (List.contains_iff_mem.mpr hm), h.once⟩
  · rw [hl, List.length_append]
    exact hlt
  · intro visits hvs
    rw [hvisited]
    split
    · exact h.visits visits hvs
    · rename_i hn
      exact hvisits (fun hm => hn (List.contains_iff_mem.mpr hm)) visits hvs

theorem counted (c : Course α) (n : Nat) : c.Counted n := by
  induction n with
  | zero => exact c.counted_start
  | succ n ih =>
    cases RequestRun.stepped (c.run n) (c.before n) with
    | idle ha _ hi => exact ih.idle ha hi.kept
    | failed node p ht ha _ hi => exact ih.attempted ht ha hi.kept
    | called node p ht ha _ hc => exact ih.attempted ht ha hc.kept

/-- Only nodes at which an attempt was begun are called. -/
theorem calls_sublist (c : Course α) (n : Nat) : (c.calls n).Sublist (c.attempts n) := by
  induction n with
  | zero => exact .refl _
  | succ n ih =>
    rw [calls_succ, attempts_succ]
    refine ih.append ?_
    cases RequestRun.stepped (c.run n) (c.before n) with
    | idle ha hc _ => rw [ha, hc]
    | failed node p _ ha hc _ => rw [ha, hc]; exact List.nil_sublist _
    | called node p _ ha hc _ => rw [ha, hc]

/-- The nodes addressed, each once, are as many as the request has visited. -/
theorem distinct_attempts (c : Course α) (n : Nat) :
    (c.attempts n).dedup.length = (c.run n).pending.visited.length := by
  have h := c.counted n
  refine ((List.perm_ext_iff_of_nodup (List.nodup_dedup _) h.once).mpr ?_).length_eq
  intro node
  rw [List.mem_dedup, h.visited]

end Course

end LedgerNet
