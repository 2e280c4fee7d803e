import LedgerNet.Proofs.Subscription.Reassembly

/-!
A buffer loses no item and hands on none twice, whatever it is given: chunk numbers that are missing or repeated,
totals that disagree, items that are whole messages among the chunks of one transaction.
-/
namespace LedgerNet

/-- The transaction of a chunk, and how many chunks it declares; an item with a total below two is no chunk. -/
def TopicResponse.piece? (r : TopicResponse) : Option (String × Nat) :=
  r.chunk.bind fun c => if 1 < c.total.toNat then some (c.transactionId, c.total.toNat) else none

theorem TopicResponse.isSingle_of_piece {r : TopicResponse} (h : r.piece? = none) : r.isSingle = true := by
  cases hchunk : r.chunk with
  | none => simp [isSingle, hchunk]
  | some c =>
    have htotal : ¬ 1 < c.total.toNat := by simpa [piece?, hchunk] using h
    have hle : c.total ≤ 1 := UInt32.le_iff_toNat_le.mpr (Nat.le_of_not_lt htotal)
    simpa [isSingle, hchunk] using hle

theorem TopicResponse.chunk_of_piece {r : TopicResponse} {id : String} {total : Nat}
    (h : r.piece? = some (id, total)) :
    ∃ number word : UInt32, r.chunk = some ⟨id, number, word⟩ ∧ word.toNat = total ∧ 2 ≤ total := by
  cases hchunk : r.chunk with
  | none => simp [piece?, hchunk] at h
  | some c =>
    simp only [piece?, hchunk, Option.bind_some, Option.ite_none_right_eq_some, Option.some.injEq,
      Prod.mk.injEq] at h
    obtain ⟨htotal, rfl, rfl⟩ := h
    exact ⟨c.number, c.total, rfl, rfl, htotal⟩

namespace ChunkBuffer

/-- What is gathered of a transaction after one more item. As many chunks as an item of it declares are complete,
and nothing is gathered any longer. -/
def gather (id : String) (gathered : List TopicResponse) (r : TopicResponse) : List TopicResponse :=
  match r.piece? with
  | none => gathered
  | some (id', total) =>
    if id' = id then if gathered.length + 1 < total then gathered ++ [r] else [] else gathered

/-- The chunks of a transaction that have come since its chunks were last complete. -/
def sinceFlush (id : String) (got : List TopicResponse) : List TopicResponse := got.foldl (gather id) []

/-- The items of one message that comes out. -/
inductive Parcel where
  | single (item : TopicResponse)
  | joined (id : String) (parts : List TopicResponse)

namespace Parcel

def items : Parcel → List TopicResponse
  | .single item => [item]
  | .joined _ parts => parts

/-- The chunks of one transaction in a message. -/
def chunksOf (id : String) : Parcel → List TopicResponse
  | .single _ => []
  | .joined id' parts => if id' = id then parts else []

end Parcel

/-- Some chunks in the order of their numbers; those of one number stay as they came. -/
structure Ordered (parts sorted : List TopicResponse) : Prop where
  perm : sorted.Perm parts
  rising : sorted.Pairwise fun a b => a.chunkNumber ≤ b.chunkNumber
  ties : ∀ number, sorted.filter (·.chunkNumber = number) = parts.filter (·.chunkNumber = number)

/-- A message is made of these items: it is the one item, or it has the contents of all chunks in order, and the
rest of the last of them. -/
def Parcel.Makes : Parcel → TopicMessage → Prop
  | .single r, m => m = ⟨r.timestamp, r.sequence, r.runningHash, r.contents, 1, r.chunk.map (·.transactionId)⟩
  | .joined id parts, m => ∃ sorted last, Ordered parts sorted ∧ sorted.getLast? = some last ∧
      m = ⟨last.timestamp, last.sequence, last.runningHash, sorted.flatMap (·.contents),
        UInt32.ofNat parts.length, some id⟩

/-- The items of the message that must come out with an item, when others came before. -/
def parcel? (got : List TopicResponse) (r : TopicResponse) : Option Parcel :=
  match r.piece? with
  | none => some (.single r)
  | some (id, total) =>
    if (sinceFlush id got).length + 1 < total then none else some (.joined id (sinceFlush id got ++ [r]))

/-- The items of all messages that must come out, message by message. -/
def parcels (items : List TopicResponse) : List Parcel :=
  items.zipIdx.filterMap fun (r, n) => parcel? (items.take n) r

variable {b : ChunkBuffer} {held : List (String × List TopicResponse)} {id : String}
  {got parts : List TopicResponse} {r : TopicResponse} {total : Nat}

theorem gather_whole (h : r.piece? = none) (gathered : List TopicResponse) : gather id gathered r = gathered := by
  simp [gather, h]

theorem gather_other {id' : String} (h : r.piece? = some (id', total)) (hne : id' ≠ id)
    (gathered : List TopicResponse) : gather id gathered r = gathered := by
  simp [gather, h, hne]

theorem gather_piece (h : r.piece? = some (id, total)) (gathered : List TopicResponse) :
    gather id gathered r = if gathered.length + 1 < total then gathered ++ [r] else [] := by
  simp [gather, h]

theorem sinceFlush_append (id : String) (got : List TopicResponse) (r : TopicResponse) :
    sinceFlush id (got ++ [r]) = gather id (sinceFlush id got) r := by
  simp [sinceFlush]

/-- What is gathered of a transaction are chunks of it, fewer than the latest of them declares. -/
theorem sinceFlush_open (id : String) (got : List TopicResponse) :
    (∀ r ∈ sinceFlush id got, ∃ total, r.piece? = some (id, total)) ∧
    ∀ last ∈ (sinceFlush id got).getLast?, ∀ total, last.piece? = some (id, total) →
      (sinceFlush id got).length < total := by
  induction got using List.reverseRecOn with
  | nil => simp [sinceFlush]
  | append_singleton got r ih =>
    rw [sinceFlush_append]
    cases hpiece : r.piece? with
    | none => rwa [gather_whole hpiece]
    | some piece =>
      obtain ⟨id', total⟩ := piece
      by_cases hid : id' = id
      · subst hid
        rw [gather_piece hpiece]
        split
        · rename_i hmore
          refine ⟨?_, ?_⟩
          · intro s hs
            rcases List.mem_append.mp hs with hs | hs
            · exact ih.1 s hs
            · obtain rfl := List.mem_singleton.mp hs
              exact ⟨total, hpiece⟩
          · intro last hlast total' htotal
            rw [List.getLast?_concat, Option.mem_def, Option.some.injEq] at hlast
            obtain rfl := hlast
            rw [hpiece] at htotal
            obtain ⟨-, rfl⟩ := Prod.mk.inj (Option.some.inj htotal)
            simpa using hmore
        · simp
      · rwa [gather_other hpiece hid]

theorem parcels_append (got : List TopicResponse) (r : TopicResponse) :
    parcels (got ++ [r]) = parcels got ++ (parcel? got r).toList := by
  have hsame : got.zipIdx.filterMap (fun (s, n) => parcel? ((got ++ [r]).take n) s) = parcels got := by
    refine List.filterMap_congr fun e he => ?_
    have hlt : e.2 < got.length := by simpa using List.snd_lt_of_mem_zipIdx he
    simp only [List.take_append_of_le_length (Nat.le_of_lt hlt)]
  rw [parcels, List.zipIdx_append, List.filterMap_append, hsame]
  congr 1
  cases h : parcel? got r <;> simp [h]

/-- The chunks of a transaction, as they came, are those of its messages, one message after the other, and those
that are gathered. -/
theorem chunks_eq (id : String) (items : List TopicResponse) :
    items.filter (fun r => r.piece?.any (·.1 = id)) =
      (parcels items).flatMap (Parcel.chunksOf id) ++ sinceFlush id items := by
  induction items using List.reverseRecOn with
  | nil => rfl
  | append_singleton got r ih =>
    rw [List.filter_append, ih, parcels_append, sinceFlush_append, List.flatMap_append, List.append_assoc,
      List.append_assoc]
    congr 1
    cases hpiece : r.piece? with
    | none => simp [parcel?, hpiece, gather_whole hpiece, Parcel.chunksOf]
    | some piece =>
      obtain ⟨id', total⟩ := piece
      by_cases hid : id' = id
      · subst hid
        by_cases hmore : (sinceFlush id' got).length + 1 < total
        · simp [parcel?, hpiece, gather_piece hpiece, hmore]
        · simp [parcel?, hpiece, gather_piece hpiece, hmore, Parcel.chunksOf]
      · rw [gather_other hpiece hid]
        by_cases hmore : (sinceFlush id' got).length + 1 < total
        · simp [parcel?, hpiece, hmore, hid]
        · simp [parcel?, hpiece, hmore, hid, Parcel.chunksOf]

open TopicResponse in
theorem ordered_inOrder (parts : List TopicResponse) : Ordered parts (TopicMessage.inOrder parts) := by
  have hperm : (TopicMessage.inOrder parts).Perm parts := List.mergeSort_perm parts _
  refine ⟨hperm, ?_, ?_⟩
  · exact (List.pairwise_mergeSort chunkNumber_trans chunkNumber_total parts).imp of_decide_eq_true
  · intro number
    -- the chunks of one number are in order as they came, and a stable sort keeps such a sublist
    have hsorted : (parts.filter (·.chunkNumber = number)).Pairwise fun a b =>
        decide (a.chunkNumber ≤ b.chunkNumber) = true := by
      refine List.pairwise_of_forall_mem_list fun a ha b hb => ?_
      have ha : a.chunkNumber = number := of_decide_eq_true (List.mem_filter.mp ha).2
      have hb : b.chunkNumber = number := of_decide_eq_true (List.mem_filter.mp hb).2
      exact decide_eq_true (Nat.le_of_eq (ha.trans hb.symm))
    have hkept := (List.sublist_mergeSort chunkNumber_trans chunkNumber_total hsorted List.filter_sublist).filter
      (·.chunkNumber = number)
    rw [List.filter_filter, ← TopicMessage.inOrder] at hkept
    simp only [Bool.and_self] at hkept
    exact (hkept.eq_of_length (hperm.filter _).length_eq.symm).symm

/-- Chunks of one transaction are put together in order. -/
theorem makes_assemble (hparts : ∀ r ∈ parts, ∃ total, r.piece? = some (id, total)) (hsome : parts ≠ []) :
    ∃ m, TopicMessage.assemble parts = some m ∧ (Parcel.joined id parts).Makes m := by
  have hordered := ordered_inOrder parts
  have hne : TopicMessage.inOrder parts ≠ [] := fun h => hsome (List.nil_perm.mp (h ▸ hordered.perm))
  obtain ⟨last, hlast⟩ : ∃ last, (TopicMessage.inOrder parts).getLast? = some last :=
    ⟨_, List.getLast?_eq_some_getLast hne⟩
  obtain ⟨total, hpiece⟩ := hparts last (hordered.perm.subset (List.mem_of_getLast? hlast))
  obtain ⟨number, word, hchunk, -⟩ := TopicResponse.chunk_of_piece hpiece
  refine ⟨_, ?_, TopicMessage.inOrder parts, last, hordered, hlast, rfl⟩
  simp [TopicMessage.assemble, hlast, hchunk, hordered.perm.length_eq]

/-- All items that a buffer holds. -/
def waiting (b : ChunkBuffer) : List TopicResponse := b.held.flatMap (·.2)

theorem parts_cons (id' id : String) (parts' : List TopicResponse) (rest : List (String × List TopicResponse)) :
    (⟨(id', parts') :: rest⟩ : ChunkBuffer).parts id =
      if id' = id then parts' else (⟨rest⟩ : ChunkBuffer).parts id := by
  by_cases hid : id' = id
  · simp [ChunkBuffer.parts, hid]
  · simp [ChunkBuffer.parts, List.lookup_cons, beq_eq_false_iff_ne.mpr (Ne.symm hid), hid]

theorem put_perm (b : ChunkBuffer) (id : String) (r : TopicResponse) :
    (⟨put id (b.parts id ++ [r]) b.held⟩ : ChunkBuffer).waiting.Perm (b.waiting ++ [r]) := by
  obtain ⟨held⟩ := b
  induction held with
  | nil => exact .refl _
  | cons e rest ih =>
    obtain ⟨id', parts'⟩ := e
    rw [parts_cons]
    by_cases hid : id' = id
    · simp only [waiting, put, hid, if_true, List.flatMap_cons, List.append_assoc]
      exact List.perm_append_comm.append_left parts'
    · simp only [waiting, put, hid, if_false, List.flatMap_cons, List.append_assoc]
      exact ih.append_left parts'

theorem drop_perm (hkeys : (b.held.map (·.1)).Nodup) (id : String) :
    (b.parts id ++ (b.drop id).waiting).Perm b.waiting := by
  obtain ⟨held⟩ := b
  induction held with
  | nil => exact .refl _
  | cons e rest ih =>
    obtain ⟨id', parts'⟩ := e
    obtain ⟨hfirst, hrest⟩ := List.nodup_cons.mp hkeys
    rw [parts_cons]
    by_cases hid : id' = id
    · have hothers : rest.filter (·.1 != id) = rest := by
        rw [List.filter_eq_self]
        intro e he
        exact bne_iff_ne.mpr fun heq => hfirst (List.mem_map.mpr ⟨e, he, heq.trans hid.symm⟩)
      simp [hid, waiting, drop, hothers]
    · have hkept : (⟨(id', parts') :: rest⟩ : ChunkBuffer).drop id =
          ⟨(id', parts') :: ((⟨rest⟩ : ChunkBuffer).drop id).held⟩ := by simp [drop, hid]
      simp only [hkept, hid, if_false, waiting, List.flatMap_cons]
      exact (List.perm_append_comm_assoc _ _ _).trans ((ih hrest).append_left parts')

theorem makes_toList {parcel : Option Parcel} {message : Option TopicMessage}
    (h : Option.Rel Parcel.Makes parcel message) : List.Forall₂ Parcel.Makes parcel.toList message.toList := by
  cases h with
  | none => exact .nil
  | some hmakes => exact .cons hmakes .nil

/-- The entries of a buffer are what is gathered of each transaction. -/
structure Gathers (got : List TopicResponse) (b : ChunkBuffer) : Prop where
  keys : (b.held.map (·.1)).Nodup
  held : ∀ e, e ∈ b.held ↔ e.2 = sinceFlush e.1 got ∧ e.2 ≠ []

namespace Gathers

theorem start : Gathers [] ⟨[]⟩ := ⟨.nil, by simp [sinceFlush]⟩

theorem parts_eq (h : Gathers got b) (id : String) : b.parts id = sinceFlush id got := by
  by_cases hnil : sinceFlush id got = []
  · rw [hnil]
    refine parts_of_not_mem fun e he hid => ?_
    obtain ⟨heq, hsome⟩ := (h.held e).mp he
    rw [hid, hnil] at heq
    exact hsome heq
  · exact parts_of_mem h.keys ((h.held _).mpr ⟨rfl, hnil⟩)

/-- What an item does to a buffer: its message comes out as soon as all its chunks are there. -/
theorem accept (h : Gathers got b) (r : TopicResponse) :
    Gathers (got ++ [r]) (b.accept r).1 ∧ Option.Rel Parcel.Makes (parcel? got r) (b.accept r).2 := by
  cases hpiece : r.piece? with
  | none =>
    rw [b.accept_single (TopicResponse.isSingle_of_piece hpiece)]
    refine ⟨⟨h.keys, ?_⟩, ?_⟩
    · simpa only [sinceFlush_append, gather_whole hpiece] using h.held
    · simp only [parcel?, hpiece]
      exact .some rfl
  | some piece =>
    obtain ⟨id, total⟩ := piece
    obtain ⟨number, word, hchunk, rfl, htwo⟩ := TopicResponse.chunk_of_piece hpiece
    have hid : sinceFlush id (got ++ [r]) = gather id (sinceFlush id got) r := sinceFlush_append id got r
    have hother {id' : String} (hne : id' ≠ id) : sinceFlush id' (got ++ [r]) = sinceFlush id' got := by
      rw [sinceFlush_append, gather_other hpiece (Ne.symm hne)]
    rw [gather_piece hpiece] at hid
    rw [b.accept_chunk hchunk htwo, h.parts_eq id, List.length_append, List.length_singleton]
    simp only [parcel?, hpiece]
    by_cases hmore : (sinceFlush id got).length + 1 < word.toNat
    · rw [if_pos hmore] at hid
      rw [if_pos hmore, if_pos hmore]
      refine ⟨⟨nodup_put h.keys, ?_⟩, .none⟩
      intro e
      rw [mem_put h.keys, h.held]
      by_cases he : e.1 = id
      · simp only [he, hid, Prod.ext_iff, true_and, ne_eq, not_true, and_false, or_false]
        exact ⟨fun heq => ⟨heq, by simp [heq]⟩, And.left⟩
      · simp [he, hother he, Prod.ext_iff]
    · rw [if_neg hmore] at hid
      rw [if_neg hmore, if_neg hmore]
      refine ⟨⟨(List.filter_sublist.map _).nodup h.keys, ?_⟩, ?_⟩
      · intro e
        rw [mem_drop, h.held]
        by_cases he : e.1 = id
        · simp [he, hid]
        · simp [he, hother he]
      · have hparts : ∀ s ∈ sinceFlush id got ++ [r], ∃ total, s.piece? = some (id, total) := by
          intro s hs
          rcases List.mem_append.mp hs with hs | hs
          · exact (sinceFlush_open id got).1 s hs
          · obtain rfl := List.mem_singleton.mp hs
            exact ⟨_, hpiece⟩
        obtain ⟨m, hm, hmakes⟩ := makes_assemble hparts (by simp)
        rw [hm]
        exact .some hmakes

end Gathers

/-- An item is added to those that wait, and a message takes its own with it. -/
theorem Gathers.conserve (h : Gathers got b) (r : TopicResponse) :
    (((parcel? got r).toList.flatMap Parcel.items) ++ (b.accept r).1.waiting).Perm (b.waiting ++ [r]) := by
  cases hpiece : r.piece? with
  | none =>
    rw [b.accept_single (TopicResponse.isSingle_of_piece hpiece)]
    simp only [parcel?, hpiece]
    exact List.perm_append_comm
  | some piece =>
    obtain ⟨id, total⟩ := piece
    obtain ⟨number, word, hchunk, rfl, htwo⟩ := TopicResponse.chunk_of_piece hpiece
    rw [b.accept_chunk hchunk htwo, List.length_append, List.length_singleton]
    simp only [parcel?, hpiece, ← h.parts_eq id]
    by_cases hmore : (b.parts id).length + 1 < word.toNat
    · rw [if_pos hmore, if_pos hmore]
      exact b.put_perm id r
    · rw [if_neg hmore, if_neg hmore]
      simp only [Option.toList_some, List.flatMap_singleton, Parcel.items, List.append_assoc]
      refine (List.perm_append_comm.append_left _).trans ?_
      rw [← List.append_assoc]
      exact (drop_perm h.keys id).append_right [r]

theorem gathers_fed (items : List TopicResponse) : Gathers items (fed items) := by
  induction items using List.reverseRecOn with
  | nil => exact .start
  | append_singleton got r ih =>
    rw [fed_append]
    exact (ih.accept r).1

/-- What becomes of the items that a buffer was given. -/
structure Conserves (items : List TopicResponse) : Prop where
  /-- Each item is in one message that came out or waits in one entry. -/
  once : items.Perm ((parcels items).flatMap Parcel.items ++ (fed items).waiting)
  messages : List.Forall₂ Parcel.Makes (parcels items) (messages items)
  /-- A message comes out with the item that makes it complete. -/
  prompt : ∀ got r rest, items = got ++ r :: rest → Option.Rel Parcel.Makes (parcel? got r) ((fed got).accept r).2
  /-- The chunks of a transaction go, as they come, into its messages and then into its entry. -/
  chunks : ∀ id, items.filter (fun r => r.piece?.any (·.1 = id)) =
    (parcels items).flatMap (Parcel.chunksOf id) ++ sinceFlush id items
  entries : ((fed items).held.map (·.1)).Nodup
  entry : ∀ id, sinceFlush id items ≠ [] → (id, sinceFlush id items) ∈ (fed items).held
  pending : ∀ e ∈ (fed items).held, e.2 = sinceFlush e.1 items ∧
    ∃ latest total, e.2.getLast? = some latest ∧ latest.piece? = some (e.1, total) ∧ e.2.length < total
  empty : (fed items).isEmpty = true ↔ (fed items).pending = 0

/-- Whatever items a buffer is given, none is lost and none comes out twice. -/
theorem conserves (items : List TopicResponse) : Conserves items where
  once := by
    induction items using List.reverseRecOn with
    | nil => exact .refl _
    | append_singleton got r ih =>
      have hstep := (gathers_fed got).conserve r
      rw [parcels_append, fed_append, List.flatMap_append, List.append_assoc]
      refine (ih.append_right [r]).trans ?_
      rw [List.append_assoc]
      exact hstep.symm.append_left _
  messages := by
    induction items using List.reverseRecOn with
    | nil => exact .nil
    | append_singleton got r ih =>
      rw [parcels_append, messages_append]
      refine List.rel_append ih ?_
      exact makes_toList ((gathers_fed got).accept r).2
  prompt := fun got r _ _ => ((gathers_fed got).accept r).2
  chunks := fun id => chunks_eq id items
  entries := (gathers_fed items).keys
  entry := fun id hsome => ((gathers_fed items).held _).mpr ⟨rfl, hsome⟩
  pending := by
    intro e he
    obtain ⟨heq, hsome⟩ := ((gathers_fed items).held e).mp he
    obtain ⟨hof, hopen⟩ := sinceFlush_open e.1 items
    rw [← heq] at hof hopen
    obtain ⟨latest, hlatest⟩ : ∃ latest, e.2.getLast? = some latest :=
      ⟨_, List.getLast?_eq_some_getLast hsome⟩
    obtain ⟨total, hpiece⟩ := hof latest (List.mem_of_getLast? hlatest)
    exact ⟨heq, latest, total, hlatest, hpiece, hopen latest hlatest total hpiece⟩
  empty := by rw [isEmpty, List.isEmpty_iff, ChunkBuffer.pending, List.length_eq_zero_iff]

end ChunkBuffer

end LedgerNet
