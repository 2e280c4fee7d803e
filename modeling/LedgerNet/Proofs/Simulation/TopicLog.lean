import LedgerNet.Proofs.Subscription.Reassembly
import LedgerNet.Proofs.Subscription.Resume
import LedgerNet.Proofs.Text.Utf8

/-!
What a generated log holds. Its items are in the order of their time, and the first of them make up the messages that
they complete, one after the other.
-/
namespace LedgerNet

open Text

namespace Submission

variable {m : Submission} {got rest : List TopicResponse}

theorem nodup_alone (m : Submission) : ([m].filterMap splitId?).Nodup := by
  cases m with
  | whole => exact .nil
  | split s => exact List.nodup_singleton s.id

theorem perm_alone (h : got ++ rest = m.items) : (got ++ rest).Perm ([m].flatMap items) := by
  rw [h, List.flatMap_singleton]

theorem arrived_alone {s : Split} (h : got ⊆ s.chunks) : s.arrived got = got := by
  rw [Split.arrived, List.filter_eq_self]
  exact fun r hr => decide_eq_true (h hr)

/-- While the items of one message arrive in order, the message comes out with the last of them. -/
theorem messages_alone (h : got ++ rest = m.items) :
    ChunkBuffer.messages got = if rest = [] then [m.message] else [] := by
  cases m with
  | whole item single =>
    rcases List.append_eq_singleton_iff.mp h with ⟨rfl, rfl⟩ | ⟨rfl, rfl⟩
    · rfl
    · simp [ChunkBuffer.messages, ChunkBuffer.acceptAll, ChunkBuffer.accept_single _ single, message,
        TopicMessage.single]
  | split s =>
    have hout := (holds_fed (nodup_alone _) (perm_alone h)).2
    have hchunks : got ++ rest = s.chunks := h
    have hsub : got ⊆ s.chunks := fun r hr => hchunks ▸ List.mem_append_left rest hr
    have hnone : got.filter (·.isSingle) = [] := by
      rw [List.filter_eq_nil_iff]
      intro r hr
      simp [not_single (hsub hr)]
    have hcount : got.length + rest.length = s.total.toNat := by rw [← List.length_append, hchunks, s.complete]
    simp only [ready, hnone, joined?, arrived_alone hsub, List.map_nil, List.nil_append, List.filterMap_cons,
      List.filterMap_nil] at hout
    by_cases hrest : rest = []
    · have hall : s.total.toNat ≤ got.length := by
        rw [← hcount, hrest]
        exact Nat.le_refl _
      simpa [hall, hrest, message] using hout
    · have hopen : ¬ s.total.toNat ≤ got.length := by
        have hpos := List.length_pos_iff.mpr hrest
        omega
      simpa [hopen, hrest] using hout

/-- Nothing of a message is held when all its items have arrived. -/
theorem fed_items (m : Submission) : ChunkBuffer.fed m.items = ⟨[]⟩ := by
  have hholds := (holds_fed (nodup_alone m) (perm_alone (List.append_nil m.items))).1
  refine congrArg ChunkBuffer.mk (List.eq_nil_iff_forall_not_mem.mpr ?_)
  intro e he
  obtain ⟨s, hs, -, -, hopen⟩ := (hholds.held e).mp he
  obtain rfl := List.mem_singleton.mp hs
  have hall : s.arrived (split s).items = s.chunks := arrived_alone (List.Subset.refl _)
  rw [hall, s.complete] at hopen
  exact Nat.lt_irrefl _ hopen

theorem messages_items_append (m : Submission) (more : List TopicResponse) :
    ChunkBuffer.messages (m.items ++ more) = m.message :: ChunkBuffer.messages more := by
  have hfed : ((⟨[]⟩ : ChunkBuffer).acceptAll m.items).1 = ⟨[]⟩ := fed_items m
  have hout : ((⟨[]⟩ : ChunkBuffer).acceptAll m.items).2 = [m.message] := messages_alone (List.append_nil m.items)
  rw [ChunkBuffer.messages, ChunkBuffer.acceptAll_append_all, hfed, hout]
  rfl

end Submission

namespace Simulation

variable {t t' : Timestamp} {items : List TopicResponse}

/-- From one instant on, each item is stamped one gap after the one before it; the last of them at another instant. -/
def Stamped (t : Timestamp) : List TopicResponse → Timestamp → Prop
  | [], t' => t' = t
  | r :: rest, t' => r.timestamp = t.plusNanos itemGap ∧ Stamped r.timestamp rest t'

theorem Stamped.after (h : Stamped t items t') (hr : t.reaches (itemGap * items.length) = true) :
    (∀ r ∈ items, t.Precedes r.timestamp) ∧ InOrder items := by
  induction items generalizing t with
  | nil => exact ⟨fun r hr => (List.not_mem_nil hr).elim, .nil, fun r hr => (List.not_mem_nil hr).elim⟩
  | cons r rest ih =>
    obtain ⟨hstamp, hrest⟩ := h
    rw [List.length_cons, Nat.mul_succ, Nat.add_comm] at hr
    obtain ⟨hone, hmore⟩ := Timestamp.reaches_plusNanos hr
    rw [← hstamp] at hmore
    obtain ⟨hlater, hrising, hnormal⟩ := ih hrest hmore
    have hfirst : t.Precedes r.timestamp := hstamp ▸ Timestamp.precedes_plusNanos hone (by decide)
    refine ⟨?_, List.pairwise_cons.mpr ⟨hlater, hrising⟩, ?_⟩
    · intro s hs
      rcases List.mem_cons.mp hs with rfl | hs
      · exact hfirst
      · exact hfirst.trans (hlater s hs)
    · intro s hs
      rcases List.mem_cons.mp hs with rfl | hs
      · exact hstamp ▸ Timestamp.plusNanos_normal t itemGap
      · exact hnormal s hs

/-- Items that come of a state one after the other: each is made of its piece and its chunk, and the next of the state
behind it. -/
def Emitted (s : LogState) : List TopicResponse → LogState → Prop
  | [], s' => s' = s
  | r :: rest, s' => r = (s.item r.chunk r.contents).1 ∧ Emitted (s.item r.chunk r.contents).2 rest s'

namespace Emitted

variable {s s' s'' : LogState} {more : List TopicResponse}

theorem append (h : Emitted s items s') (hm : Emitted s' more s'') : Emitted s (items ++ more) s'' := by
  induction items generalizing s with
  | nil =>
    obtain rfl : s' = s := h
    exact hm
  | cons r rest ih => exact ⟨h.1, ih h.2⟩

theorem stamped (h : Emitted s items s') : Stamped s.time items s'.time := by
  induction items generalizing s with
  | nil => exact congrArg LogState.time h
  | cons r rest ih =>
    obtain ⟨hr, hrest⟩ := h
    have hstamp : r.timestamp = s.time.plusNanos itemGap := congrArg TopicResponse.timestamp hr
    exact ⟨hstamp, hstamp ▸ ih hrest⟩

end Emitted

variable {size parts : Nat} {bytes : Bytes}

theorem piecesOf_cons (size fuel : Nat) (b : UInt8) (rest : Bytes) : piecesOf size (fuel + 1) (b :: rest) =
    (b :: rest).take size :: piecesOf size fuel ((b :: rest).drop size) := rfl

theorem flatten_piecesOf (hs : 0 < size) {fuel : Nat} (h : bytes.length ≤ fuel) :
    (piecesOf size fuel bytes).flatten = bytes := by
  induction fuel generalizing bytes with
  | zero =>
    obtain rfl := List.length_eq_zero_iff.mp (Nat.le_zero.mp h)
    rfl
  | succ fuel ih =>
    cases bytes with
    | nil => rfl
    | cons b rest =>
      have hfuel : ((b :: rest).drop size).length ≤ fuel := by
        rw [List.length_drop]
        omega
      rw [piecesOf_cons, List.flatten_cons, ih hfuel, List.take_append_drop]

theorem length_piecesOf (fuel : Nat) (h : bytes.length ≤ size * parts) :
    (piecesOf size fuel bytes).length ≤ parts := by
  induction fuel generalizing bytes parts with
  | zero => exact Nat.zero_le _
  | succ fuel ih =>
    cases bytes with
    | nil => exact Nat.zero_le _
    | cons b rest =>
      cases parts with
      | zero => simp at h
      | succ parts =>
        have hrest : ((b :: rest).drop size).length ≤ size * parts := by
          rw [List.length_drop]
          rw [Nat.mul_succ] at h
          omega
        rw [piecesOf_cons, List.length_cons]
        exact Nat.succ_le_succ (ih hrest)

/-- The pieces of some bytes make them up again. -/
theorem flatten_split (bytes : Bytes) (parts : Nat) : (split bytes parts).flatten = bytes :=
  flatten_piecesOf (Nat.le_max_right _ 1) (Nat.le_refl _)

/-- There are no more pieces than were asked for. -/
theorem length_split (bytes : Bytes) (parts : Nat) : (split bytes parts).length ≤ max parts 1 := by
  refine length_piecesOf _ ?_
  have hpos : 0 < max parts 1 := Nat.le_max_right parts 1
  have hquotient := Nat.div_add_mod (bytes.length + max parts 1 - 1) (max parts 1)
  have hremainder := Nat.mod_lt (bytes.length + max parts 1 - 1) hpos
  have hsize := Nat.mul_le_mul_left (max parts 1) (Nat.le_max_left ((bytes.length + max parts 1 - 1) / max parts 1) 1)
  rw [Nat.mul_comm]
  omega

namespace LogState

variable {id : String} {total number : Nat} {pieces : List Bytes}

theorem items_cons (s : LogState) (id : String) (total number : Nat) (piece : Bytes) (rest : List Bytes) :
    ∃ s' : LogState, ∃ r : TopicResponse, r.contents = piece ∧
      r.chunk = (if 1 < total then some ⟨id, UInt32.ofNat number, UInt32.ofNat total⟩ else none) ∧
      s.items id total number (piece :: rest) =
        (r :: (s'.items id total (number + 1) rest).1, (s'.items id total (number + 1) rest).2) :=
  ⟨_, _, rfl, rfl, rfl⟩

theorem contents_items (s : LogState) : (s.items id total number pieces).1.map (·.contents) = pieces := by
  induction pieces generalizing s number with
  | nil => rfl
  | cons piece rest ih =>
    obtain ⟨s', r, hcontents, -, heq⟩ := s.items_cons id total number piece rest
    rw [heq, List.map_cons, hcontents, ih]

theorem length_items (s : LogState) : (s.items id total number pieces).1.length = pieces.length := by
  rw [← List.length_map (·.contents), contents_items]

theorem emitted_items (s : LogState) :
    Emitted s (s.items id total number pieces).1 (s.items id total number pieces).2 := by
  induction pieces generalizing s number with
  | nil => rfl
  | cons piece rest ih => exact ⟨rfl, ih _⟩

theorem chunk_items (s : LogState) (place : Nat) (h : place < (s.items id total number pieces).1.length) :
    (s.items id total number pieces).1[place].chunk =
      if 1 < total then some ⟨id, UInt32.ofNat (number + place), UInt32.ofNat total⟩ else none := by
  induction pieces generalizing s number place with
  | nil => exact absurd h (Nat.not_lt_zero place)
  | cons piece rest ih =>
    obtain ⟨s', r, -, hchunk, heq⟩ := s.items_cons id total number piece rest
    simp only [heq] at h ⊢
    cases place with
    | zero => exact hchunk
    | succ place =>
      rw [List.getElem_cons_succ, ih, Nat.add_right_comm]
      rfl

/-- The items of some pieces are a message that was submitted, whole or in chunks. -/
theorem submitted (s : LogState) (id : String) (hne : pieces ≠ []) (hsize : pieces.length < UInt32.size) :
    ∃ m : Submission, m.items = (s.items id pieces.length 1 pieces).1 ∧ m.message.contents = pieces.flatten ∧
      ∀ i ∈ m.splitId?, i = id := by
  have hcontents : (s.items id pieces.length 1 pieces).1.map (·.contents) = pieces := s.contents_items
  have hlength : (s.items id pieces.length 1 pieces).1.length = pieces.length := s.length_items
  have hchunk (place : Nat) (h : place < (s.items id pieces.length 1 pieces).1.length) :
      (s.items id pieces.length 1 pieces).1[place].chunk = if 1 < pieces.length then
        some ⟨id, UInt32.ofNat (1 + place), UInt32.ofNat pieces.length⟩ else none := s.chunk_items place h
  generalize (s.items id pieces.length 1 pieces).1 = items at hcontents hlength hchunk
  rw [← hlength] at hsize hchunk
  rcases Nat.lt_or_ge 1 items.length with hmany | hone
  · have htotal : (UInt32.ofNat items.length).toNat = items.length := UInt32.toNat_ofNat_of_lt' hsize
    refine ⟨.split ⟨id, UInt32.ofNat items.length, items, htotal.symm ▸ hmany, htotal.symm, ?_⟩, rfl, ?_, ?_⟩
    · intro place h
      rw [hchunk place h, if_pos hmany, Nat.add_comm]
    · rw [← hcontents, List.flatten_eq_flatMap, List.flatMap_map]
      rfl
    · rintro i ⟨⟩
      rfl
  · have hpos := List.length_pos_iff.mpr hne
    obtain ⟨r, rfl⟩ := List.length_eq_one_iff.mp (show items.length = 1 by omega)
    have hsingle : r.isSingle = true := by
      have hnone : r.chunk = none := hchunk 0 Nat.one_pos
      rw [TopicResponse.isSingle, hnone]
      rfl
    refine ⟨.whole r hsingle, rfl, ?_, ?_⟩
    · rw [← hcontents]
      exact (List.append_nil r.contents).symm
    · rintro i ⟨⟩

end LogState

namespace TopicLog

/-- The number of the last item of a message. -/
def lastItem (log : TopicLog) (n : Nat) : Nat := ((List.range' 1 n).map fun k => (log.messagePieces k).length).sum

/-- The messages that so many items complete. -/
def completed (log : TopicLog) (count : Nat) : List Nat :=
  (List.range' 1 log.messages).filter fun n => log.lastItem n ≤ count

variable {log : TopicLog}

theorem body_ne_nil (log : TopicLog) (n : Nat) : log.body n ≠ [] :=
  Utf8.encode_ne_nil (by simp [String.toList_append])

theorem flatten_messagePieces (log : TopicLog) (n : Nat) : (log.messagePieces n).flatten = log.body n := by
  unfold messagePieces
  split
  · exact flatten_split _ _
  · simp

theorem messagePieces_ne_nil (log : TopicLog) (n : Nat) : log.messagePieces n ≠ [] := by
  intro h
  have hflat := log.flatten_messagePieces n
  rw [h] at hflat
  exact log.body_ne_nil n hflat.symm

theorem length_messagePieces (h : log.chunks < UInt32.size) (n : Nat) : (log.messagePieces n).length < UInt32.size := by
  unfold messagePieces
  split
  · exact Nat.lt_of_le_of_lt (length_split _ _) (max_lt h (by decide))
  · exact (by decide : 1 < UInt32.size)

theorem lastItem_succ (log : TopicLog) (n : Nat) :
    log.lastItem (n + 1) = log.lastItem n + (log.messagePieces (n + 1)).length := by
  simp [lastItem, List.range'_concat, Nat.add_comm 1 n]

theorem lastItem_mono (log : TopicLog) {n n' : Nat} (h : n ≤ n') : log.lastItem n ≤ log.lastItem n' := by
  induction h with
  | refl => exact Nat.le_refl _
  | step _ ih =>
    rw [lastItem_succ]
    exact Nat.le_trans ih (Nat.le_add_right _ _)

/-- The items of the messages from one on: those of the first of them, which has an id of the instant before it if it is
split, and the others. -/
theorem itemsFrom_succ (log : TopicLog) (s : LogState) (n count : Nat) (h : log.chunks < UInt32.size) :
    ∃ m : Submission, ∃ s' : LogState, m.message.contents = log.body n ∧
      m.items.map (·.contents) = log.messagePieces n ∧ (∀ i ∈ m.splitId?, i = transactionId s.time) ∧
      Emitted s m.items s' ∧ log.itemsFrom s n (count + 1) = m.items ++ log.itemsFrom s' (n + 1) count := by
  obtain ⟨m, hitems, hcontents, hid⟩ :=
    s.submitted (transactionId s.time) (log.messagePieces_ne_nil n) (length_messagePieces h n)
  refine ⟨m, (s.items (transactionId s.time) (log.messagePieces n).length 1 (log.messagePieces n)).2, ?_, ?_, hid, ?_,
    ?_⟩
  · rw [hcontents, flatten_messagePieces]
  · rw [hitems, LogState.contents_items]
  · rw [hitems]
    exact LogState.emitted_items s
  · rw [hitems]
    rfl

theorem emitted_itemsFrom (h : log.chunks < UInt32.size) (s : LogState) (n count : Nat) :
    ∃ s', Emitted s (log.itemsFrom s n count) s' := by
  induction count generalizing s n with
  | zero => exact ⟨s, rfl⟩
  | succ count ih =>
    obtain ⟨m, s', -, -, -, hemitted, heq⟩ := log.itemsFrom_succ s n count h
    obtain ⟨s'', hrest⟩ := ih s' (n + 1)
    exact ⟨s'', heq ▸ hemitted.append hrest⟩

theorem length_itemsFrom (h : log.chunks < UInt32.size) (s : LogState) (n count : Nat) :
    log.lastItem n + (log.itemsFrom s (n + 1) count).length = log.lastItem (n + count) := by
  induction count generalizing s n with
  | zero => rfl
  | succ count ih =>
    obtain ⟨m, s', -, hpieces, -, -, heq⟩ := log.itemsFrom_succ s (n + 1) count h
    have hlength : m.items.length = (log.messagePieces (n + 1)).length := by rw [← hpieces, List.length_map]
    rw [heq, List.length_append, hlength, ← Nat.add_assoc, ← lastItem_succ, ih, Nat.add_right_comm, Nat.add_assoc]

/-- The first items of the messages from one on give the messages that they complete. -/
theorem contents_itemsFrom (h : log.chunks < UInt32.size) (s : LogState) (n count taken : Nat) :
    (ChunkBuffer.messages ((log.itemsFrom s (n + 1) count).take taken)).map (·.contents) =
      ((List.range' (n + 1) count).filter fun k => log.lastItem k ≤ log.lastItem n + taken).map log.body := by
  induction count generalizing s n taken with
  | zero => simp [itemsFrom, ChunkBuffer.messages, ChunkBuffer.acceptAll]
  | succ count ih =>
    obtain ⟨m, s', hcontents, hpieces, -, -, heq⟩ := log.itemsFrom_succ s (n + 1) count h
    have hlength : m.items.length = (log.messagePieces (n + 1)).length := by rw [← hpieces, List.length_map]
    have hlast := log.lastItem_succ n
    rw [heq, List.range'_succ, List.filter_cons]
    rcases Nat.lt_or_ge taken m.items.length with hpart | hwhole
    · -- not even the first message is completed, and so none is
      have hnone : (List.range' (n + 1 + 1) count).filter
          (fun k => log.lastItem k ≤ log.lastItem n + taken) = [] := by
        rw [List.filter_eq_nil_iff]
        intro k hk
        have hle := log.lastItem_mono (Nat.le_of_succ_le (List.mem_range'_1.mp hk).1)
        simp only [decide_eq_true_eq]
        omega
      have hrest : m.items.drop taken ≠ [] := by
        rw [← List.length_pos_iff, List.length_drop]
        omega
      have hfirst : ¬ log.lastItem (n + 1) ≤ log.lastItem n + taken := by omega
      rw [List.take_append_of_le_length (Nat.le_of_lt hpart),
        Submission.messages_alone (List.take_append_drop taken m.items), if_neg hrest, hnone]
      simp [hfirst]
    · have hfirst : log.lastItem (n + 1) ≤ log.lastItem n + taken := by omega
      have hsame : log.lastItem (n + 1) + (taken - m.items.length) = log.lastItem n + taken := by omega
      rw [List.take_append, List.take_of_length_le hwhole, Submission.messages_items_append, List.map_cons, hcontents,
        ih, hsame]
      simp [hfirst]

theorem inOrder_generate (h : log.chunks < UInt32.size) {start : Timestamp}
    (hr : start.reaches (itemGap * (log.generate start).length) = true) : InOrder (log.generate start) := by
  obtain ⟨s', hemitted⟩ := log.emitted_itemsFrom h ⟨0, start, List.replicate 48 0⟩ 1 log.messages
  exact (hemitted.stamped.after hr).2

theorem length_generate (h : log.chunks < UInt32.size) (start : Timestamp) :
    (log.generate start).length = log.lastItem log.messages := by
  have hlength := log.length_itemsFrom h ⟨0, start, List.replicate 48 0⟩ 0 log.messages
  have hzero : log.lastItem 0 = 0 := rfl
  rw [hzero, Nat.zero_add, Nat.zero_add, Nat.zero_add] at hlength
  exact hlength

/-- The first items of a log give the messages that they complete, in order and with their bodies. -/
theorem contents_generate (h : log.chunks < UInt32.size) (start : Timestamp) (count : Nat) :
    (ChunkBuffer.messages ((log.generate start).take count)).map (·.contents) = (log.completed count).map log.body := by
  have hcontents := log.contents_itemsFrom h ⟨0, start, List.replicate 48 0⟩ 0 log.messages count
  have hzero : log.lastItem 0 = 0 := rfl
  rw [hzero] at hcontents
  simp only [Nat.zero_add] at hcontents
  exact hcontents

/-- All items complete all messages. -/
theorem completed_all (h : log.chunks < UInt32.size) (start : Timestamp) :
    log.completed (log.generate start).length = List.range' 1 log.messages := by
  rw [completed, List.filter_eq_self]
  intro n hn
  have hle : n ≤ log.messages := by
    have hlt := (List.mem_range'_1.mp hn).2
    omega
  rw [log.length_generate h]
  exact decide_eq_true (log.lastItem_mono hle)

end TopicLog

end Simulation

end LedgerNet
