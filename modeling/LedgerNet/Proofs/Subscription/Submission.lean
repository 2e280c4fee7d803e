import Mathlib
import LedgerNet.Subscription.ChunkBuffer

/-!
Messages as they were submitted, whole or in chunks, and how much of them has arrived. The chunks of a message make
it up again in whatever order they come.
-/
namespace LedgerNet

theorem TopicResponse.chunkNumber_trans (a b c : TopicResponse) : decide (a.chunkNumber ≤ b.chunkNumber) = true →
    decide (b.chunkNumber ≤ c.chunkNumber) = true → decide (a.chunkNumber ≤ c.chunkNumber) = true := by
  simp only [decide_eq_true_eq]
  exact Nat.le_trans

theorem TopicResponse.chunkNumber_total (a b : TopicResponse) :
    (decide (a.chunkNumber ≤ b.chunkNumber) || decide (b.chunkNumber ≤ a.chunkNumber)) = true := by
  simp only [Bool.or_eq_true, decide_eq_true_eq]
  exact Nat.le_total _ _

/-- A message that was submitted in chunks, here in the order of their numbers. -/
structure Split where
  id : String
  total : UInt32
  chunks : List TopicResponse
  several : 2 ≤ total.toNat
  complete : chunks.length = total.toNat
  numbered : ∀ place (h : place < chunks.length), chunks[place].chunk = some ⟨id, UInt32.ofNat (place + 1), total⟩

namespace Split

variable {s : Split} {r : TopicResponse} {got parts : List TopicResponse}

theorem ne_nil (s : Split) : s.chunks ≠ [] := by
  intro h
  have hlen := s.complete
  have htwo := s.several
  rw [h, List.length_nil] at hlen
  omega

/-- The chunk whose number is the total. -/
def last (s : Split) : TopicResponse := s.chunks.getLast s.ne_nil

def message (s : Split) : TopicMessage where
  timestamp := s.last.timestamp
  sequence := s.last.sequence
  runningHash := s.last.runningHash
  contents := s.chunks.flatMap (·.contents)
  chunks := s.total
  transactionId := s.last.chunk.map (·.transactionId)

theorem number (s : Split) {place : Nat} (h : place < s.chunks.length) : s.chunks[place].chunkNumber = place + 1 := by
  have hsize : place + 1 < UInt32.size := by
    have htotal : s.total.toNat < UInt32.size := s.total.toNat_lt
    have hlen := s.complete
    omega
  simp only [TopicResponse.chunkNumber, s.numbered place h, Option.map_some, Option.getD_some]
  exact UInt32.toNat_ofNat_of_lt' hsize

theorem chunk_of_mem (h : r ∈ s.chunks) : ∃ number, r.chunk = some ⟨s.id, number, s.total⟩ := by
  obtain ⟨place, hlt, rfl⟩ := List.getElem_of_mem h
  exact ⟨_, s.numbered place hlt⟩

theorem rising (s : Split) : s.chunks.Pairwise fun a b => a.chunkNumber < b.chunkNumber := by
  rw [List.pairwise_iff_getElem]
  intro i j hi hj hij
  rw [s.number hi, s.number hj]
  omega

theorem nodup (s : Split) : s.chunks.Nodup := by
  refine s.rising.imp ?_
  rintro a b hlt rfl
  exact Nat.lt_irrefl _ hlt

/-- Whatever the order of the chunks, that of their numbers is restored. -/
theorem inOrder_of_perm (h : parts.Perm s.chunks) : TopicMessage.inOrder parts = s.chunks := by
  have hsorted : (TopicMessage.inOrder parts).Pairwise fun a b => decide (a.chunkNumber ≤ b.chunkNumber) = true :=
    List.pairwise_mergeSort TopicResponse.chunkNumber_trans TopicResponse.chunkNumber_total parts
  have hperm : (TopicMessage.inOrder parts).Perm s.chunks := (List.mergeSort_perm parts _).trans h
  -- no two chunks have one number, so the order determines the list
  refine List.Perm.eq_of_pairwise ?_ hsorted (s.rising.imp fun hlt => decide_eq_true (Nat.le_of_lt hlt)) hperm
  intro a b ha hb hab hba
  have heq : a.chunkNumber = b.chunkNumber := Nat.le_antisymm (of_decide_eq_true hab) (of_decide_eq_true hba)
  obtain ⟨i, hi, rfl⟩ := List.getElem_of_mem (hperm.subset ha)
  obtain ⟨j, hj, rfl⟩ := List.getElem_of_mem hb
  rw [s.number hi, s.number hj] at heq
  obtain rfl : i = j := Nat.succ.inj heq
  rfl

theorem assemble_of_perm (h : parts.Perm s.chunks) : TopicMessage.assemble parts = some s.message := by
  have hlast : s.chunks.getLast? = some s.last := List.getLast?_eq_some_getLast s.ne_nil
  have hcount : UInt32.ofNat s.chunks.length = s.total := by
    rw [s.complete]
    exact UInt32.ofNat_toNat
  simp only [TopicMessage.assemble, inOrder_of_perm h, hlast, hcount, Option.map_some, message]

/-- The chunks of a message among the items received, in the order in which they came. -/
def arrived (s : Split) (got : List TopicResponse) : List TopicResponse := got.filter (· ∈ s.chunks)

theorem arrived_mem (h : r ∈ s.chunks) : s.arrived (got ++ [r]) = s.arrived got ++ [r] := by
  simp [arrived, List.filter_append, h]

theorem arrived_not_mem (h : r ∉ s.chunks) : s.arrived (got ++ [r]) = s.arrived got := by
  simp [arrived, List.filter_append, h]

end Split

inductive Submission where
  | whole (item : TopicResponse) (single : item.isSingle = true)
  | split (s : Split)

namespace Submission

variable {m : Submission} {messages : List Submission} {s : Split} {r : TopicResponse} {got all : List TopicResponse}

def items : Submission → List TopicResponse
  | .whole item _ => [item]
  | .split s => s.chunks

/-- What a subscriber is to be handed for a message. -/
def message : Submission → TopicMessage
  | .whole item _ =>
    ⟨item.timestamp, item.sequence, item.runningHash, item.contents, 1, item.chunk.map (·.transactionId)⟩
  | .split s => s.message

/-- The id under which a message was split. -/
def splitId? : Submission → Option String
  | .whole .. => none
  | .split s => some s.id

/-- Whether some item of a message was received. -/
def begun (m : Submission) (got : List TopicResponse) : Bool := m.items.any (· ∈ got)

/-- Whether all items of a message were received. -/
def finished (m : Submission) (got : List TopicResponse) : Bool := m.items.all (· ∈ got)

theorem not_single (h : r ∈ s.chunks) : r.isSingle = false := by
  obtain ⟨number, hchunk⟩ := Split.chunk_of_mem h
  have htwo := s.several
  simp only [TopicResponse.isSingle, hchunk, Option.all_some, decide_eq_false_iff_not, UInt32.le_iff_toNat_le]
  exact Nat.not_le_of_lt htwo

/-- No item is shared with a message that was split under another id. -/
theorem items_disjoint (hid : m.splitId? ≠ some s.id) (hr : r ∈ m.items) : r ∉ s.chunks := by
  intro hs
  cases m with
  | whole item single =>
    obtain rfl : r = item := List.mem_singleton.mp hr
    rw [not_single hs] at single
    cases single
  | split s' =>
    obtain ⟨number, hchunk⟩ := Split.chunk_of_mem hs
    obtain ⟨number', hchunk'⟩ := Split.chunk_of_mem (s := s') hr
    rw [hchunk] at hchunk'
    simp only [Option.some.injEq, ChunkInfo.mk.injEq] at hchunk'
    exact hid (congrArg some hchunk'.1.symm)

/-- Around a message that was split, the others were not split under its id. -/
theorem around_split (hids : (messages.filterMap splitId?).Nodup) (hs : .split s ∈ messages) :
    ∃ before after, messages = before ++ .split s :: after ∧ ∀ m ∈ before ++ after, m.splitId? ≠ some s.id := by
  obtain ⟨before, after, rfl⟩ := List.append_of_mem hs
  refine ⟨before, after, rfl, ?_⟩
  rw [List.filterMap_append, List.filterMap_cons, splitId?, List.nodup_middle, List.nodup_cons] at hids
  intro m hm hid
  refine hids.1 ?_
  rw [← List.filterMap_append]
  exact List.mem_filterMap.mpr ⟨m, hm, hid⟩

/-- All chunks of a message are among the items, each once. -/
theorem arrived_all (hids : (messages.filterMap splitId?).Nodup)
    (hall : all.Perm (messages.flatMap items)) (hs : .split s ∈ messages) :
    (s.arrived all).Perm s.chunks := by
  refine (hall.filter _).trans (List.Perm.of_eq ?_)
  obtain ⟨before, after, rfl, hothers⟩ := around_split hids hs
  have hnone (others : List Submission) (hsome : ∀ m ∈ others, m ∈ before ++ after) :
      (others.flatMap items).filter (· ∈ s.chunks) = [] := by
    rw [List.filter_eq_nil_iff]
    intro r hr
    obtain ⟨m, hm, hrm⟩ := List.mem_flatMap.mp hr
    simpa using items_disjoint (hothers m (hsome m hm)) hrm
  have hself : s.chunks.filter (· ∈ s.chunks) = s.chunks := by simp
  rw [List.flatMap_append, List.flatMap_cons, List.filter_append, List.filter_append,
    hnone before fun m => List.mem_append_left _, hnone after fun m => List.mem_append_right _, List.nil_append,
    List.append_nil]
  exact hself

theorem begun_split (s : Split) (got : List TopicResponse) :
    (Submission.split s).begun got = true ↔ s.arrived got ≠ [] := by
  simp only [begun, items, List.any_eq_true, decide_eq_true_eq, Split.arrived, ne_eq, List.filter_eq_nil_iff,
    not_forall, not_not]
  exact ⟨fun ⟨r, hs, hg⟩ => ⟨r, hg, hs⟩, fun ⟨r, hg, hs⟩ => ⟨r, hs, hg⟩⟩

/-- A message is finished when as many of its chunks have arrived as it has. -/
theorem finished_split (h : (s.arrived got).Subperm s.chunks) :
    (Submission.split s).finished got = true ↔ s.total.toNat ≤ (s.arrived got).length := by
  simp only [finished, items, List.all_eq_true, decide_eq_true_eq]
  rw [← s.complete]
  constructor
  · intro hall
    refine (s.nodup.subperm ?_).length_le
    intro r hr
    exact List.mem_filter.mpr ⟨hall r hr, decide_eq_true hr⟩
  · intro hlen r hr
    exact List.mem_of_mem_filter ((h.perm_of_length_le hlen).mem_iff.mpr hr)

end Submission

end LedgerNet
