import LedgerNet.Proofs.Json.Written
import LedgerNet.Proofs.Simulation.TopicLog
import LedgerNet.Proofs.Text.Split

/-!
A generated log and the messages it was made of. Its items are numbered from one, each later than the one before it and
chained to it by its hash; no two messages are split under one id, so a buffer that is given the items hands on the
messages, one after the other, and keeps nothing.
-/
namespace LedgerNet.Simulation

open Text

variable {s s' : LogState} {items : List TopicResponse} {size : Nat} {bytes piece : Bytes}

theorem ne_nil_of_mem_piecesOf (hs : 0 < size) {fuel : Nat} (h : piece ∈ piecesOf size fuel bytes) : piece ≠ [] := by
  induction fuel generalizing bytes with
  | zero => exact absurd h List.not_mem_nil
  | succ fuel ih =>
    cases bytes with
    | nil => exact absurd h List.not_mem_nil
    | cons b rest =>
      rw [piecesOf_cons] at h
      rcases List.mem_cons.mp h with rfl | hmore
      · intro hnil
        have hlen := congrArg List.length hnil
        rw [List.length_take, List.length_cons, List.length_nil] at hlen
        omega
      · exact ih hmore

/-- Some bytes in pieces: there is something in each of them, and they are no more than was asked for. -/
structure Splits (bytes : Bytes) (most : Nat) (pieces : List Bytes) : Prop where
  filled : ∀ piece ∈ pieces, piece ≠ []
  few : pieces.length ≤ most
  whole : pieces.flatten = bytes

theorem splits_split (bytes : Bytes) (parts : Nat) : Splits bytes (max parts 1) (split bytes parts) where
  filled := fun _ h => ne_nil_of_mem_piecesOf (Nat.le_max_right _ 1) h
  few := length_split bytes parts
  whole := flatten_split bytes parts

/-- Each item has the hash of its contents and of the hash before it. -/
def Chained (hash : Bytes) : List TopicResponse → Prop
  | [] => True
  | r :: rest => r.runningHash = Sha2.sha384 (hash ++ r.contents) ∧ Chained r.runningHash rest

namespace Emitted

theorem chained (h : Emitted s items s') : Chained s.hash items := by
  induction items generalizing s with
  | nil => trivial
  | cons r rest ih =>
    obtain ⟨hr, hrest⟩ := h
    have hhash : r.runningHash = Sha2.sha384 (s.hash ++ r.contents) := congrArg TopicResponse.runningHash hr
    exact ⟨hhash, hhash ▸ ih hrest⟩

theorem numbered (h : Emitted s items s') (hsize : s.sequence + items.length < UInt64.size) :
    items.map (·.sequence.toNat) = List.range' (s.sequence + 1) items.length := by
  induction items generalizing s with
  | nil => rfl
  | cons r rest ih =>
    obtain ⟨hr, hrest⟩ := h
    rw [List.length_cons] at hsize ⊢
    have hsequence : r.sequence = UInt64.ofNat (s.sequence + 1) := congrArg TopicResponse.sequence hr
    have hfirst : r.sequence.toNat = s.sequence + 1 := by
      rw [hsequence]
      exact UInt64.toNat_ofNat_of_lt' (by omega)
    have hmore : rest.map (·.sequence.toNat) = List.range' (s.sequence + 1 + 1) rest.length :=
      ih hrest (by change s.sequence + 1 + rest.length < UInt64.size; omega)
    rw [List.map_cons, hfirst, hmore, List.range'_succ]

/-- Behind some items there is as much time left as there was for the others, and at least one item takes time. -/
theorem later (h : Emitted s items s') {more : Nat} (hr : s.time.reaches (itemGap * (items.length + more)) = true) :
    s'.time.reaches (itemGap * more) = true ∧ (items ≠ [] → s.time.Precedes s'.time) := by
  induction items generalizing s with
  | nil =>
    obtain rfl : s' = s := h
    rw [List.length_nil, Nat.zero_add] at hr
    exact ⟨hr, fun hne => absurd rfl hne⟩
  | cons r rest ih =>
    obtain ⟨-, hrest⟩ := h
    have hsplit : itemGap * ((r :: rest).length + more) = itemGap + itemGap * (rest.length + more) := by
      rw [List.length_cons]
      ring
    rw [hsplit] at hr
    obtain ⟨hone, hmore⟩ := Timestamp.reaches_plusNanos hr
    obtain ⟨hend, hlater⟩ := ih hrest hmore
    have hfirst : s.time.Precedes (s.time.plusNanos itemGap) := Timestamp.precedes_plusNanos hone (by decide)
    refine ⟨hend, fun _ => ?_⟩
    by_cases hnil : rest = []
    · subst hnil
      obtain rfl : s' = _ := hrest
      exact hfirst
    · exact hfirst.trans (hlater hnil)

end Emitted

namespace TopicLog

theorem toList_transactionId (t : Timestamp) : (transactionId t).toList =
    "0.0.2@".toList ++ ((toString t.seconds.toInt).toList ++ '.' :: (toString t.nanos.toNat).toList) := by
  simp only [transactionId, String.toList_append, List.append_assoc]
  rfl

theorem point_not_mem (n : Int) : '.' ∉ (toString n).toList := by
  rw [Json.toList_int, List.mem_append, not_or]
  refine ⟨?_, fun h => absurd (Natural.digit_of_mem h) (by decide)⟩
  split <;> decide

/-- Transactions at two instants have different ids. -/
theorem transactionId_injective {t t' : Timestamp} (h : transactionId t = transactionId t') : t = t' := by
  have htext := congrArg String.toList h
  rw [toList_transactionId, toList_transactionId] at htext
  have hcut := congrArg (cut '.') (List.append_cancel_left htext)
  rw [cut_append (point_not_mem _), cut_append (point_not_mem _)] at hcut
  obtain ⟨hseconds, hnanos⟩ := Prod.mk.inj (Option.some.inj hcut)
  have hs : t.seconds.toInt = t'.seconds.toInt := Int.repr_injective (String.toList_injective hseconds)
  have hn : t.nanos.toNat = t'.nanos.toNat := Nat.repr_injective (String.toList_injective hnanos)
  obtain ⟨seconds, nanos⟩ := t
  obtain ⟨seconds', nanos'⟩ := t'
  obtain rfl : seconds = seconds' := Int64.toInt_inj.mp hs
  obtain rfl : nanos = nanos' := UInt32.toNat_inj.mp hn
  rfl

/-- How many pieces are asked for of a message. -/
def parts (log : TopicLog) (n : Nat) : Nat :=
  if 0 < log.chunkEvery ∧ 1 < log.chunks ∧ n % log.chunkEvery = 0 then log.chunks else 1

theorem splits_messagePieces (log : TopicLog) (n : Nat) : Splits (log.body n) (log.parts n) (log.messagePieces n) := by
  unfold messagePieces parts
  split
  · rename_i hchunked
    have hsplits := splits_split (log.body n) log.chunks
    rwa [Nat.max_eq_left (Nat.le_of_lt hchunked.2.1)] at hsplits
  · refine ⟨?_, Nat.le_refl 1, List.append_nil _⟩
    intro piece hpiece
    obtain rfl := List.mem_singleton.mp hpiece
    exact log.body_ne_nil n

/-- The messages that some items are made of, from a number on. Those that are split have different ids. -/
structure Composed (log : TopicLog) (n count : Nat) (items : List TopicResponse) (ms : List Submission) : Prop where
  items : items = ms.flatMap Submission.items
  pieces : ms.map (fun m => m.items.map (·.contents)) = (List.range' n count).map log.messagePieces
  bodies : ms.map (·.message.contents) = (List.range' n count).map log.body
  ids : (ms.filterMap Submission.splitId?).Nodup

/-- What a log emits from a state on are messages. Their ids are of instants that are not before that state. -/
theorem composed_itemsFrom (log : TopicLog) (h : log.chunks < UInt32.size) (s : LogState) (n count : Nat)
    (hr : s.time.reaches (itemGap * (log.itemsFrom s n count).length) = true) :
    ∃ ms : List Submission, log.Composed n count (log.itemsFrom s n count) ms ∧
      ∀ id ∈ ms.filterMap Submission.splitId?, ∃ t : Timestamp, ¬ t.Precedes s.time ∧ id = transactionId t := by
  induction count generalizing s n with
  | zero => exact ⟨[], ⟨rfl, rfl, rfl, .nil⟩, fun id hid => absurd hid List.not_mem_nil⟩
  | succ count ih =>
    obtain ⟨m, s', hbody, hpieces, hid, hemitted, heq⟩ := log.itemsFrom_succ s n count h
    rw [heq, List.length_append] at hr
    obtain ⟨hmore, hlater⟩ := hemitted.later hr
    have hlater : s.time.Precedes s'.time := by
      refine hlater fun hnil => log.messagePieces_ne_nil n ?_
      rw [← hpieces, hnil, List.map_nil]
    obtain ⟨ms, hcomposed, hids⟩ := ih s' (n + 1) hmore
    have hafter (t : Timestamp) (ht : ¬ t.Precedes s'.time) : ¬ t.Precedes s.time := fun hts => ht (hts.trans hlater)
    refine ⟨m :: ms, ⟨?_, ?_, ?_, ?_⟩, ?_⟩
    · rw [heq, List.flatMap_cons, hcomposed.items]
    · rw [List.map_cons, hpieces, hcomposed.pieces, List.range'_succ, List.map_cons]
    · rw [List.map_cons, hbody, hcomposed.bodies, List.range'_succ, List.map_cons]
    · cases hsplit : m.splitId? with
      | none =>
        rw [List.filterMap_cons_none hsplit]
        exact hcomposed.ids
      | some id =>
        rw [List.filterMap_cons_some hsplit, List.nodup_cons]
        refine ⟨?_, hcomposed.ids⟩
        intro hmem
        obtain ⟨t, ht, rfl⟩ := hids id hmem
        obtain rfl := transactionId_injective (hid _ hsplit)
        exact ht hlater
    · intro id hmem
      obtain ⟨m', hm', hsplit⟩ := List.mem_filterMap.mp hmem
      rcases List.mem_cons.mp hm' with rfl | hm'
      · exact ⟨s.time, Timestamp.Precedes.irrefl _, hid id hsplit⟩
      · obtain ⟨t, ht, hidt⟩ := hids id (List.mem_filterMap.mpr ⟨m', hm', hsplit⟩)
        exact ⟨t, hafter t ht, hidt⟩

end TopicLog

/-- A buffer that is given the items of one message after the other hands on the messages, and keeps nothing. -/
theorem handedOn (ms : List Submission) :
    ChunkBuffer.messages (ms.flatMap Submission.items) = ms.map Submission.message ∧
      ChunkBuffer.fed (ms.flatMap Submission.items) = ⟨[]⟩ := by
  induction ms with
  | nil => exact ⟨rfl, rfl⟩
  | cons m rest ih =>
    have hfed : ((⟨[]⟩ : ChunkBuffer).acceptAll m.items).1 = ⟨[]⟩ := m.fed_items
    rw [List.flatMap_cons, Submission.messages_items_append, ih.1]
    refine ⟨rfl, ?_⟩
    rw [ChunkBuffer.fed, ChunkBuffer.acceptAll_append_all, hfed]
    exact ih.2

namespace TopicLog

/-- What a log is to those who read it. -/
structure Readable (log : TopicLog) (start : Timestamp) : Prop where
  numbered : (log.generate start).map (·.sequence.toNat) = List.range' 1 (log.generate start).length
  inOrder : InOrder (log.generate start)
  chained : Chained (List.replicate 48 0) (log.generate start)
  pieces : ∀ n, Splits (log.body n) (log.parts n) (log.messagePieces n)
  /-- Each message of the log is one that a buffer hands on, in its turn. -/
  messages : ∃ ms, log.Composed 1 log.messages (log.generate start) ms ∧
    ChunkBuffer.messages (log.generate start) = ms.map Submission.message
  contents : (ChunkBuffer.messages (log.generate start)).map (·.contents) =
    (List.range' 1 log.messages).map fun n => Utf8.encode s!"message {n} on topic {log.topic}"
  empty : ChunkBuffer.fed (log.generate start) = ⟨[]⟩

/-- A generated log is in order, numbered and chained, and its items make up its messages again. -/
theorem readable (log : TopicLog) (start : Timestamp) (hchunks : log.chunks < UInt32.size)
    (hreaches : start.reaches (itemGap * (log.generate start).length) = true)
    (hsize : (log.generate start).length < UInt64.size) :
    log.Readable start ∧ ∀ (bytes : Bytes) (parts : Nat), Splits bytes (max parts 1) (split bytes parts) := by
  obtain ⟨s', hemitted⟩ := log.emitted_itemsFrom hchunks ⟨0, start, List.replicate 48 0⟩ 1 log.messages
  obtain ⟨ms, hcomposed, -⟩ :=
    log.composed_itemsFrom hchunks ⟨0, start, List.replicate 48 0⟩ 1 log.messages hreaches
  have hitems : log.generate start = ms.flatMap Submission.items := hcomposed.items
  obtain ⟨hmessages, hfed⟩ := handedOn ms
  rw [← hitems] at hmessages hfed
  refine ⟨?_, splits_split⟩
  exact {
    numbered := hemitted.numbered (by rwa [Nat.zero_add])
    inOrder := log.inOrder_generate hchunks hreaches
    chained := hemitted.chained
    pieces := log.splits_messagePieces
    messages := ⟨ms, hcomposed, hmessages⟩
    contents := by
      rw [hmessages, List.map_map]
      exact hcomposed.bodies
    empty := hfed }

/-- Three messages, the second in chunks. -/
def trio : TopicLog := ⟨⟨0, 0, 1001⟩, 3, 2, 4⟩

theorem readable_trio : trio.chunks < UInt32.size ∧
    Timestamp.reaches ⟨1, 999999999⟩ (itemGap * (trio.generate ⟨1, 999999999⟩).length) = true ∧
    (trio.generate ⟨1, 999999999⟩).length < UInt64.size ∧ trio.Readable ⟨1, 999999999⟩ ∧
    (trio.generate ⟨1, 999999999⟩).map (·.sequence.toNat) = [1, 2, 3, 4, 5, 6] ∧
    (ChunkBuffer.messages (trio.generate ⟨1, 999999999⟩)).map (·.contents) =
      [Utf8.encode "message 1 on topic 0.0.1001", Utf8.encode "message 2 on topic 0.0.1001",
        Utf8.encode "message 3 on topic 0.0.1001"] := by
  have hchunks : trio.chunks < UInt32.size := by decide
  have hlength : (trio.generate ⟨1, 999999999⟩).length = 6 := by
    rw [trio.length_generate hchunks]
    decide_cbv
  have hreaches : Timestamp.reaches ⟨1, 999999999⟩ (itemGap * (trio.generate ⟨1, 999999999⟩).length) = true := by
    rw [hlength]
    decide
  have hsize : (trio.generate ⟨1, 999999999⟩).length < UInt64.size := by
    rw [hlength]
    decide
  obtain ⟨hreadable, -⟩ := trio.readable ⟨1, 999999999⟩ hchunks hreaches hsize
  refine ⟨hchunks, hreaches, hsize, hreadable, ?_, hreadable.contents.trans ?_⟩
  · rw [hreadable.numbered, hlength]
    rfl
  · decide_cbv

end TopicLog

end LedgerNet.Simulation
