import LedgerNet.Proofs.Subscription.Streams
import LedgerNet.Proofs.Subscription.Submission

/-!
Messages in chunks are put together again whatever the order in which their items arrive, and however those of
several messages are mixed. At any time the buffer holds what has arrived of the messages that were begun and are
not finished, and nothing else.
-/
namespace LedgerNet

namespace ChunkBuffer

variable {b : ChunkBuffer} {held : List (String × List TopicResponse)} {id : String} {parts : List TopicResponse}
  {r : TopicResponse}

theorem keys_put (id : String) (parts : List TopicResponse) (held : List (String × List TopicResponse)) :
    (put id parts held).map (·.1) = if id ∈ held.map (·.1) then held.map (·.1) else held.map (·.1) ++ [id] := by
  induction held with
  | nil => rfl
  | cons e rest ih =>
    by_cases h : e.1 = id
    · simp [put, h]
    · have hne : ¬ id = e.1 := fun heq => h heq.symm
      simp only [put, h, if_false, List.map_cons, ih, List.mem_cons, hne, false_or]
      split <;> rfl

theorem nodup_put (h : (held.map (·.1)).Nodup) : ((put id parts held).map (·.1)).Nodup := by
  rw [keys_put]
  split
  · exact h
  · rename_i hid
    rw [List.nodup_append_comm]
    exact List.nodup_cons.mpr ⟨hid, h⟩

theorem mem_put (h : (held.map (·.1)).Nodup) (e : String × List TopicResponse) :
    e ∈ put id parts held ↔ e = (id, parts) ∨ (e ∈ held ∧ e.1 ≠ id) := by
  induction held with
  | nil => simp [put]
  | cons first rest ih =>
    obtain ⟨hfirst, hrest⟩ := List.nodup_cons.mp h
    by_cases hid : first.1 = id
    · -- no entry behind the first is of its transaction
      have hother : e ∈ rest → e.1 ≠ id := by
        intro he heq
        exact hfirst (List.mem_map.mpr ⟨e, he, heq.trans hid.symm⟩)
      simp only [put, hid, if_true, List.mem_cons]
      grind
    · simp only [put, hid, if_false, List.mem_cons, ih hrest]
      grind

theorem mem_drop (e : String × List TopicResponse) : e ∈ (b.drop id).held ↔ e ∈ b.held ∧ e.1 ≠ id := by
  simp [drop]

theorem parts_of_mem (hkeys : (b.held.map (·.1)).Nodup) (h : (id, parts) ∈ b.held) : b.parts id = parts := by
  obtain ⟨before, after, hheld⟩ := List.append_of_mem h
  have hlookup : b.held.lookup id = some parts := by
    rw [List.lookup_eq_some_iff]
    refine ⟨before, after, hheld, ?_⟩
    intro e he
    rw [hheld, List.map_append, List.map_cons, List.nodup_middle, List.nodup_cons] at hkeys
    refine bne_iff_ne.mpr fun heq => hkeys.1 (List.mem_append_left _ ?_)
    exact List.mem_map.mpr ⟨e, he, heq.symm⟩
  simp [ChunkBuffer.parts, hlookup]

theorem parts_of_not_mem (h : ∀ e ∈ b.held, e.1 ≠ id) : b.parts id = [] := by
  have hlookup : b.held.lookup id = none := by
    rw [List.lookup_eq_none_iff]
    intro e he
    exact bne_iff_ne.mpr (h e he).symm
  simp [ChunkBuffer.parts, hlookup]

theorem accept_single (b : ChunkBuffer) (h : r.isSingle = true) : b.accept r = (b, some (.single r)) := by
  unfold accept
  split
  · rfl
  · rename_i info hchunk
    rw [if_pos (by simpa [TopicResponse.isSingle, hchunk] using h)]

theorem accept_chunk {number total : UInt32} (b : ChunkBuffer) (h : r.chunk = some ⟨id, number, total⟩)
    (htwo : 2 ≤ total.toNat) : b.accept r =
      if (b.parts id ++ [r]).length < total.toNat then (⟨put id (b.parts id ++ [r]) b.held⟩, none)
      else (b.drop id, TopicMessage.assemble (b.parts id ++ [r])) := by
  have hmany : ¬ total ≤ 1 := by
    rw [UInt32.le_iff_toNat_le]
    exact Nat.not_le_of_lt htwo
  simp only [accept, h, hmany, if_false]

/-- What is held of some items, given one after the other. -/
def fed (items : List TopicResponse) : ChunkBuffer := ((⟨[]⟩ : ChunkBuffer).acceptAll items).1

theorem fed_append (items : List TopicResponse) (r : TopicResponse) :
    fed (items ++ [r]) = ((fed items).accept r).1 := by
  rw [fed, acceptAll_append]
  rfl

theorem messages_append (items : List TopicResponse) (r : TopicResponse) :
    messages (items ++ [r]) = messages items ++ ((fed items).accept r).2.toList := by
  rw [messages, acceptAll_append]
  rfl

end ChunkBuffer

open Submission in
/-- What a buffer holds of some messages: of each that was begun and is not finished, the chunks that have arrived. -/
structure Holds (messages : List Submission) (got : List TopicResponse) (b : ChunkBuffer) : Prop where
  keys : (b.held.map (·.1)).Nodup
  held : ∀ e, e ∈ b.held ↔ ∃ s, .split s ∈ messages ∧ e = (s.id, s.arrived got) ∧ s.arrived got ≠ [] ∧
    (s.arrived got).length < s.total.toNat

namespace Holds

open Submission

variable {messages : List Submission} {got : List TopicResponse} {b : ChunkBuffer} {s : Split} {r : TopicResponse}

theorem start : Holds messages [] ⟨[]⟩ := ⟨.nil, by simp [Split.arrived]⟩

theorem eq_of_id (hids : (messages.filterMap splitId?).Nodup) {s s' : Split} (hs : .split s ∈ messages)
    (hs' : .split s' ∈ messages) (hid : s'.id = s.id) : s' = s := by
  obtain ⟨before, after, rfl, hothers⟩ := around_split hids hs
  rcases List.mem_append.mp hs' with hm | hm
  · exact absurd (congrArg some hid) (hothers _ (List.mem_append_left _ hm))
  · rcases List.mem_cons.mp hm with heq | hm
    · exact Submission.split.inj heq
    · exact absurd (congrArg some hid) (hothers _ (List.mem_append_right _ hm))

/-- What is held of a message that is not finished is what has arrived of it. -/
theorem parts (h : Holds messages got b) (hids : (messages.filterMap splitId?).Nodup) (hs : .split s ∈ messages)
    (hopen : (s.arrived got).length < s.total.toNat) : b.parts s.id = s.arrived got := by
  by_cases hnil : s.arrived got = []
  · rw [hnil]
    refine ChunkBuffer.parts_of_not_mem ?_
    intro e he hid
    obtain ⟨s', hs', rfl, hsome, -⟩ := (h.held e).mp he
    obtain rfl := eq_of_id hids hs hs' hid
    exact hsome hnil
  · exact ChunkBuffer.parts_of_mem h.keys ((h.held _).mpr ⟨s, hs, rfl, hnil, hopen⟩)

/-- An item that is a message changes nothing. -/
theorem single (h : Holds messages got b) (hr : r.isSingle = true) : Holds messages (got ++ [r]) b := by
  have hsame (s : Split) : s.arrived (got ++ [r]) = s.arrived got := by
    refine Split.arrived_not_mem fun hs => ?_
    rw [not_single hs] at hr
    cases hr
  refine ⟨h.keys, ?_⟩
  simpa only [hsame] using h.held

/-- What becomes of a chunk: it is held, or it is the last one and the message comes out. -/
theorem chunk (h : Holds messages got b) (hids : (messages.filterMap splitId?).Nodup) (hs : .split s ∈ messages)
    (hr : r ∈ s.chunks) (hfit : (s.arrived (got ++ [r])).Subperm s.chunks) :
    Holds messages (got ++ [r]) (b.accept r).1 ∧
      (b.accept r).2 = if s.total.toNat ≤ (s.arrived (got ++ [r])).length then some s.message else none := by
  have hnext : s.arrived (got ++ [r]) = s.arrived got ++ [r] := Split.arrived_mem hr
  have hopen : (s.arrived got).length < s.total.toNat := by
    have hle := hfit.length_le
    rw [hnext, s.complete, List.length_append, List.length_singleton] at hle
    omega
  obtain ⟨number, hchunk⟩ := Split.chunk_of_mem hr
  have hparts : b.parts s.id ++ [r] = s.arrived (got ++ [r]) := by rw [h.parts hids hs hopen, hnext]
  rw [b.accept_chunk hchunk s.several, hparts]
  -- the entries of other messages stay as they are
  have hothers (e : String × List TopicResponse) : (e ∈ b.held ∧ e.1 ≠ s.id) ↔
      ∃ s', .split s' ∈ messages ∧ s'.id ≠ s.id ∧ e = (s'.id, s'.arrived (got ++ [r])) ∧
        s'.arrived (got ++ [r]) ≠ [] ∧ (s'.arrived (got ++ [r])).length < s'.total.toNat := by
    have hsame {s' : Split} (hne : s'.id ≠ s.id) : s'.arrived (got ++ [r]) = s'.arrived got := by
      refine Split.arrived_not_mem ?_
      exact items_disjoint (m := .split s) (fun heq => hne (Option.some.inj heq).symm) hr
    rw [h.held]
    constructor
    · rintro ⟨⟨s', hs', rfl, hrest⟩, hne⟩
      exact ⟨s', hs', hne, by rw [hsame hne], by rwa [hsame hne]⟩
    · rintro ⟨s', hs', hne, rfl, hrest⟩
      rw [hsame hne] at hrest ⊢
      exact ⟨⟨s', hs', rfl, hrest⟩, hne⟩
  by_cases hmore : (s.arrived (got ++ [r])).length < s.total.toNat
  · rw [if_pos hmore, if_neg (Nat.not_le_of_lt hmore)]
    refine ⟨⟨ChunkBuffer.nodup_put h.keys, ?_⟩, rfl⟩
    intro e
    rw [ChunkBuffer.mem_put h.keys, hothers]
    constructor
    · rintro (rfl | ⟨s', hs', -, hrest⟩)
      · exact ⟨s, hs, rfl, by simp [hnext], hmore⟩
      · exact ⟨s', hs', hrest⟩
    · rintro ⟨s', hs', hrest⟩
      by_cases hid : s'.id = s.id
      · obtain rfl := eq_of_id hids hs hs' hid
        exact .inl hrest.1
      · exact .inr ⟨s', hs', hid, hrest⟩
  · rw [if_neg hmore, if_pos (Nat.le_of_not_lt hmore)]
    have hall : (s.arrived (got ++ [r])).Perm s.chunks := by
      refine hfit.perm_of_length_le ?_
      rw [s.complete]
      exact Nat.le_of_not_lt hmore
    refine ⟨⟨(List.filter_sublist.map _).nodup h.keys, ?_⟩, Split.assemble_of_perm hall⟩
    intro e
    rw [ChunkBuffer.mem_drop, hothers]
    constructor
    · rintro ⟨s', hs', -, hrest⟩
      exact ⟨s', hs', hrest⟩
    · rintro ⟨s', hs', hrest⟩
      refine ⟨s', hs', ?_, hrest⟩
      intro hid
      obtain rfl := eq_of_id hids hs hs' hid
      exact hmore hrest.2.2

end Holds

namespace Submission

variable {messages : List Submission} {all got rest : List TopicResponse} {m : Submission} {s : Split}
  {r : TopicResponse}

/-- What is held of a message that was split, while it is not finished. -/
def inBuffer? (got : List TopicResponse) : Submission → Option (String × List TopicResponse)
  | .whole .. => none
  | .split s => if s.arrived got ≠ [] ∧ (s.arrived got).length < s.total.toNat then some (s.id, s.arrived got) else none

/-- A message that was split, once it is finished. -/
def joined? (got : List TopicResponse) : Submission → Option TopicMessage
  | .whole .. => none
  | .split s => if s.total.toNat ≤ (s.arrived got).length then some s.message else none

/-- The messages that can be handed on when some items were received. -/
def ready (messages : List Submission) (got : List TopicResponse) : List TopicMessage :=
  (got.filter (·.isSingle)).map .single ++ messages.filterMap (joined? got)

theorem fits (hids : (messages.filterMap splitId?).Nodup) (hall : (got ++ rest).Perm (messages.flatMap items))
    (hs : .split s ∈ messages) : (s.arrived got).Subperm s.chunks := by
  have hsub : (s.arrived got).Sublist (s.arrived (got ++ rest)) := (List.sublist_append_left got rest).filter _
  exact hsub.subperm.trans (arrived_all hids hall hs).subperm

/-- A message that was begun and is not finished has an entry in the buffer. -/
theorem inBuffer_isSome (hids : (messages.filterMap splitId?).Nodup)
    (hall : (got ++ rest).Perm (messages.flatMap items)) (hm : m ∈ messages) :
    (m.inBuffer? got).isSome = (m.begun got && !m.finished got) := by
  cases m with
  | whole item single => by_cases h : item ∈ got <;> simp [inBuffer?, begun, finished, items, h]
  | split s =>
    have hbegun := begun_split s got
    have hfinished := finished_split (fits hids hall hm)
    rw [Bool.eq_iff_iff]
    simp only [inBuffer?, Option.isSome_ite, Bool.and_eq_true, Bool.not_eq_true', hbegun]
    rw [← Bool.not_eq_true, hfinished, Nat.not_le]

theorem pending_eq {b : ChunkBuffer} (hids : (messages.filterMap splitId?).Nodup)
    (hall : (got ++ rest).Perm (messages.flatMap items)) (h : Holds messages got b) :
    b.pending = messages.countP fun m => m.begun got && !m.finished got := by
  have hnodup : (messages.filterMap (inBuffer? got)).Nodup := by
    rw [List.Nodup, List.pairwise_filterMap] at hids ⊢
    refine hids.imp ?_
    intro m m' hne e he e' he' heq
    cases m with
    | whole => cases he
    | split s =>
      cases m' with
      | whole => cases he'
      | split s' =>
        simp only [inBuffer?, Option.ite_none_right_eq_some, Option.some.injEq] at he he'
        obtain ⟨-, rfl⟩ := he
        obtain ⟨-, rfl⟩ := he'
        exact hne s.id rfl s'.id rfl (congrArg Prod.fst heq)
  have hperm : b.held.Perm (messages.filterMap (inBuffer? got)) := by
    refine (List.perm_ext_iff_of_nodup h.keys.of_map hnodup).mpr ?_
    intro e
    rw [h.held, List.mem_filterMap]
    constructor
    · rintro ⟨s, hs, rfl, hopen⟩
      exact ⟨_, hs, if_pos hopen⟩
    · rintro ⟨m, hm, he⟩
      cases m with
      | whole => cases he
      | split s =>
        simp only [inBuffer?, Option.ite_none_right_eq_some, Option.some.injEq] at he
        exact ⟨s, hm, he.2.symm, he.1⟩
  rw [ChunkBuffer.pending, hperm.length_eq, List.length_filterMap_eq_countP]
  exact List.countP_congr fun m hm => by rw [inBuffer_isSome hids hall hm]

/-- What the buffer does with an item: its message comes out if nothing more is missing of it. -/
theorem accept_eq {b : ChunkBuffer} (hids : (messages.filterMap splitId?).Nodup)
    (hall : (got ++ r :: rest).Perm (messages.flatMap items)) (h : Holds messages got b) (hm : m ∈ messages)
    (hr : r ∈ m.items) : Holds messages (got ++ [r]) (b.accept r).1 ∧
      (b.accept r).2 = if m.finished (got ++ [r]) then some m.message else none := by
  cases m with
  | whole item single =>
    obtain rfl : r = item := List.mem_singleton.mp hr
    rw [b.accept_single single]
    refine ⟨h.single single, ?_⟩
    simp [finished, items, message, TopicMessage.single]
  | split s =>
    have hall' : (got ++ [r] ++ rest).Perm (messages.flatMap items) := by simpa using hall
    have hfit := fits hids hall' hm
    obtain ⟨hholds, hout⟩ := h.chunk hids hm hr hfit
    refine ⟨hholds, hout.trans ?_⟩
    simp only [finished_split hfit, message]

theorem joined_same (h : m.splitId? ≠ some s.id) (hr : r ∈ s.chunks) : m.joined? (got ++ [r]) = m.joined? got := by
  cases m with
  | whole => rfl
  | split s' =>
    have hother : r ∉ s'.chunks := items_disjoint (m := .split s) (fun heq => h heq.symm) hr
    simp only [joined?, Split.arrived_not_mem hother]

/-- What comes out for an item is what can be handed on with it and could not be before. -/
theorem ready_append (hids : (messages.filterMap splitId?).Nodup)
    (hall : (got ++ r :: rest).Perm (messages.flatMap items)) (hm : m ∈ messages) (hr : r ∈ m.items) :
    (ready messages (got ++ [r])).Perm
      (ready messages got ++ (if m.finished (got ++ [r]) then some m.message else none).toList) := by
  cases m with
  | whole item single =>
    obtain rfl : r = item := List.mem_singleton.mp hr
    have hsame : messages.filterMap (joined? (got ++ [r])) = messages.filterMap (joined? got) := by
      refine List.filterMap_congr fun m _ => ?_
      cases m with
      | whole => rfl
      | split s =>
        have hother : r ∉ s.chunks := by
          intro hs
          rw [not_single hs] at single
          cases single
        simp only [joined?, Split.arrived_not_mem hother]
    have hout : (Submission.whole r single).finished (got ++ [r]) = true := by simp [finished, items]
    rw [ready, ready, hsame, hout, List.filter_append, List.map_append, List.append_assoc, List.append_assoc]
    refine List.Perm.append_left _ (List.perm_append_comm.trans (List.Perm.of_eq ?_))
    simp [single, message, TopicMessage.single]
  | split s =>
    have hall' : (got ++ [r] ++ rest).Perm (messages.flatMap items) := by simpa using hall
    have hfit := fits hids hall' hm
    have hopen : joined? got (.split s) = none := by
      have hle := hfit.length_le
      rw [Split.arrived_mem hr, s.complete, List.length_append, List.length_singleton] at hle
      exact if_neg (Nat.not_le_of_lt hle)
    have hnow : joined? (got ++ [r]) (.split s) =
        if (Submission.split s).finished (got ++ [r]) then some s.message else none := by
      simp only [joined?, finished_split hfit]
    obtain ⟨before, after, rfl, hothers⟩ := around_split hids hm
    have hbefore : before.filterMap (joined? (got ++ [r])) = before.filterMap (joined? got) :=
      List.filterMap_congr fun m hm => joined_same (hothers m (List.mem_append_left _ hm)) hr
    have hafter : after.filterMap (joined? (got ++ [r])) = after.filterMap (joined? got) :=
      List.filterMap_congr fun m hm => joined_same (hothers m (List.mem_append_right _ hm)) hr
    have hsingles : (got ++ [r]).filter (·.isSingle) = got.filter (·.isSingle) := by
      simp [List.filter_append, not_single hr]
    simp only [ready, hsingles, List.filterMap_append, List.filterMap_cons, hopen, hnow, hbefore, hafter, message]
    rw [List.append_assoc]
    refine List.Perm.append_left _ ?_
    generalize (if (Submission.split s).finished (got ++ [r]) then some s.message else none) = out
    cases out with
    | none => simp
    | some whole => exact List.perm_middle.trans (List.perm_append_singleton _ _).symm

/-- When all items were received, all messages can be handed on. -/
theorem ready_all (hids : (messages.filterMap splitId?).Nodup) (hall : all.Perm (messages.flatMap items)) :
    (ready messages all).Perm (messages.map message) := by
  have hjoined : messages.filterMap (joined? all) = messages.filterMap fun m =>
      if m.splitId?.isSome then some m.message else none := by
    refine List.filterMap_congr fun m hm => ?_
    cases m with
    | whole => rfl
    | split s =>
      have hle : s.total.toNat ≤ (s.arrived all).length := by rw [(arrived_all hids hall hm).length_eq, s.complete]
      exact if_pos hle
  have hsingles : ((all.filter (·.isSingle)).map TopicMessage.single).Perm
      (((messages.flatMap items).filter (·.isSingle)).map TopicMessage.single) := (hall.filter _).map _
  rw [ready, hjoined]
  refine (hsingles.append_right _).trans ?_
  clear hids hall hjoined hsingles
  induction messages with
  | nil => exact .refl _
  | cons m rest ih =>
    cases m with
    | whole item single =>
      simpa [items, splitId?, single, message, TopicMessage.single] using ih
    | split s =>
      have hnone : s.chunks.filter (·.isSingle) = [] := by
        rw [List.filter_eq_nil_iff]
        intro r hr
        simp [not_single hr]
      simp only [List.flatMap_cons, items, List.filter_append, hnone, List.nil_append, splitId?, List.filterMap_cons,
        Option.isSome_some, if_true, List.map_cons]
      exact List.perm_middle.trans (ih.cons _)

/-- Where a buffer stands that was given some of the items of some messages. -/
theorem holds_fed (hids : (messages.filterMap splitId?).Nodup) (hall : (got ++ rest).Perm (messages.flatMap items)) :
    Holds messages got (ChunkBuffer.fed got) ∧ (ChunkBuffer.messages got).Perm (ready messages got) := by
  induction got using List.reverseRecOn generalizing rest with
  | nil =>
    refine ⟨.start, List.Perm.of_eq ?_⟩
    have hnone : messages.filterMap (joined? []) = [] := by
      rw [List.filterMap_eq_nil_iff]
      intro m _
      cases m with
      | whole => rfl
      | split s => exact if_neg (Nat.not_le_of_lt (Nat.lt_of_lt_of_le Nat.two_pos s.several))
    rw [ready, hnone]
    rfl
  | append_singleton got r ih =>
    have hall' : (got ++ r :: rest).Perm (messages.flatMap items) := by simpa using hall
    obtain ⟨hholds, hemitted⟩ := ih hall'
    obtain ⟨m, hm, hr⟩ := List.mem_flatMap.mp (hall'.subset (List.mem_append_right _ List.mem_cons_self))
    obtain ⟨hnext, hout⟩ := accept_eq hids hall' hholds hm hr
    rw [ChunkBuffer.fed_append, ChunkBuffer.messages_append, hout]
    exact ⟨hnext, (hemitted.append_right _).trans (ready_append hids hall' hm hr).symm⟩

/-- Whatever the order of their items, all messages come out, each of them once, and with the last of its items; at
any time as many are pending as were begun and are not finished, and in the end none. -/
theorem reassembled {messages : List Submission} {all : List TopicResponse}
    (hids : (messages.filterMap splitId?).Nodup) (hall : all.Perm (messages.flatMap items)) :
    (ChunkBuffer.messages all).Perm (messages.map message) ∧ (ChunkBuffer.fed all).isEmpty = true ∧
    (∀ got r rest, all = got ++ r :: rest → ∃ m ∈ messages, r ∈ m.items) ∧
    (∀ got r rest, all = got ++ r :: rest → ∀ m ∈ messages, r ∈ m.items →
      ((ChunkBuffer.fed got).accept r).2 = if m.finished (got ++ [r]) then some m.message else none) ∧
    ∀ got rest, all = got ++ rest →
      (ChunkBuffer.fed got).pending = messages.countP fun m => m.begun got && !m.finished got := by
  have hpending (got rest : List TopicResponse) (heq : all = got ++ rest) :
      (ChunkBuffer.fed got).pending = messages.countP fun m => m.begun got && !m.finished got := by
    subst heq
    exact pending_eq hids hall (holds_fed hids hall).1
  have hfull : (all ++ []).Perm (messages.flatMap items) := by rwa [List.append_nil]
  refine ⟨(holds_fed hids hfull).2.trans (ready_all hids hall), ?_, ?_, ?_, hpending⟩
  · have hdone : messages.countP (fun m => m.begun all && !m.finished all) = 0 := by
      rw [List.countP_eq_zero]
      intro m hm
      have hfinished : m.finished all = true := by
        rw [finished, List.all_eq_true]
        intro r hr
        exact decide_eq_true (hall.mem_iff.mpr (List.mem_flatMap.mpr ⟨m, hm, hr⟩))
      simp [hfinished]
    have hzero := (hpending all [] (List.append_nil all).symm).trans hdone
    exact List.isEmpty_iff.mpr (List.length_eq_zero_iff.mp hzero)
  · rintro got r rest rfl
    exact List.mem_flatMap.mp (hall.subset (List.mem_append_right _ List.mem_cons_self))
  · rintro got r rest rfl m hm hr
    exact (accept_eq hids hall (holds_fed hids hall).1 hm hr).2

/-- A message in three chunks. -/
def inThree : Split where
  id := "0.0.2@1.0"
  total := 3
  chunks := [⟨⟨1, 0⟩, 1, [], [1], some ⟨"0.0.2@1.0", 1, 3⟩⟩, ⟨⟨2, 0⟩, 2, [], [2], some ⟨"0.0.2@1.0", 2, 3⟩⟩,
    ⟨⟨5, 0⟩, 5, [9], [3], some ⟨"0.0.2@1.0", 3, 3⟩⟩]
  several := by decide
  complete := rfl
  numbered := by decide

/-- A message in two. -/
def inTwo : Split where
  id := "0.0.7@1.0"
  total := 2
  chunks := [⟨⟨3, 0⟩, 3, [], [4], some ⟨"0.0.7@1.0", 1, 2⟩⟩, ⟨⟨6, 0⟩, 6, [8], [5], some ⟨"0.0.7@1.0", 2, 2⟩⟩]
  several := by decide
  complete := rfl
  numbered := by decide

def mixed : List Submission := [.split inThree, .whole ⟨⟨4, 0⟩, 4, [7], [6], none⟩ rfl, .split inTwo]

/-- The items of `mixed`: the last chunk of each message first, and the messages one within the other. -/
def mixedUp : List TopicResponse :=
  [⟨⟨5, 0⟩, 5, [9], [3], some ⟨"0.0.2@1.0", 3, 3⟩⟩, ⟨⟨6, 0⟩, 6, [8], [5], some ⟨"0.0.7@1.0", 2, 2⟩⟩,
    ⟨⟨1, 0⟩, 1, [], [1], some ⟨"0.0.2@1.0", 1, 3⟩⟩, ⟨⟨4, 0⟩, 4, [7], [6], none⟩,
    ⟨⟨3, 0⟩, 3, [], [4], some ⟨"0.0.7@1.0", 1, 2⟩⟩, ⟨⟨2, 0⟩, 2, [], [2], some ⟨"0.0.2@1.0", 2, 3⟩⟩]

theorem reassembled_mixedUp :
    (mixed.filterMap splitId?).Nodup ∧ mixedUp.Perm (mixed.flatMap items) ∧
      (ChunkBuffer.messages mixedUp).Perm
        [⟨⟨5, 0⟩, 5, [9], [1, 2, 3], 3, some "0.0.2@1.0"⟩, ⟨⟨4, 0⟩, 4, [7], [6], 1, none⟩,
          ⟨⟨6, 0⟩, 6, [8], [4, 5], 2, some "0.0.7@1.0"⟩] ∧
      (ChunkBuffer.fed mixedUp).isEmpty = true ∧ (ChunkBuffer.fed (mixedUp.take 4)).pending = 2 := by
  have hids : (mixed.filterMap splitId?).Nodup := by decide
  have hall : mixedUp.Perm (mixed.flatMap items) := by decide
  obtain ⟨hout, hempty, -, -, hpending⟩ := reassembled hids hall
  refine ⟨hids, hall, hout, hempty, ?_⟩
  rw [hpending (mixedUp.take 4) (mixedUp.drop 4) (List.take_append_drop 4 mixedUp).symm]
  decide

end Submission

end LedgerNet
