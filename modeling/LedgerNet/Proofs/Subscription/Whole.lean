import LedgerNet.Proofs.Subscription.Conserved

/-!
A message is put together as soon as its chunks are as many as one of them declares; their numbers are not looked at
before. What it takes for these chunks to be the message as it was split: one total, and no number that comes twice or
is none of the message's.
-/
namespace LedgerNet

namespace ChunkBuffer

variable {got parts : List TopicResponse} {r : TopicResponse} {id : String} {total : Nat}

/-- Chunks that are a whole message: they declare one total, and their numbers are those from 1 to it, each once. -/
def Whole (id : String) (parts : List TopicResponse) : Prop :=
  ∃ total, (∀ r ∈ parts, r.piece? = some (id, total)) ∧
    (parts.map (·.chunkNumber)).Perm (List.range' 1 total)

/-- Chunks of which none contradicts another. -/
structure Agree (id : String) (total : Nat) (parts : List TopicResponse) : Prop where
  declared : ∀ r ∈ parts, r.piece? = some (id, total)
  once : (parts.map (·.chunkNumber)).Nodup
  within : ∀ r ∈ parts, 1 ≤ r.chunkNumber ∧ r.chunkNumber ≤ total

theorem Whole.agree (hwhole : Whole id parts) (hr : r ∈ parts) (h : r.piece? = some (id, total)) :
    Agree id total parts := by
  obtain ⟨total', hdeclared, hnumbers⟩ := hwhole
  have hsame : total' = total := by
    have heq := (hdeclared r hr).symm.trans h
    exact (Prod.mk.inj (Option.some.inj heq)).2
  subst hsame
  refine ⟨hdeclared, hnumbers.nodup_iff.mpr List.nodup_range', ?_⟩
  intro s hs
  have hmem : s.chunkNumber ∈ List.range' 1 total' := hnumbers.subset (List.mem_map_of_mem hs)
  have hbounds := List.mem_range'_1.mp hmem
  omega

/-- Among enough chunks that agree no number is missing. -/
theorem Agree.whole (h : Agree id total parts) (henough : total ≤ parts.length) : Whole id parts := by
  have hsub : parts.map (·.chunkNumber) ⊆ List.range' 1 total := by
    intro number hnumber
    obtain ⟨s, hs, rfl⟩ := List.mem_map.mp hnumber
    have hbounds := h.within s hs
    exact List.mem_range'_1.mpr (by omega)
  have hlen : (List.range' 1 total).length ≤ (parts.map (·.chunkNumber)).length := by
    simpa using henough
  exact ⟨total, h.declared, (h.once.subperm hsub).perm_of_length_le hlen⟩

/-- What comes out with a chunk. -/
theorem accept_piece (got : List TopicResponse) (h : r.piece? = some (id, total)) :
    (sinceFlush id got ++ [r]).length < total ∧ ((fed got).accept r).2 = none ∨
    total ≤ (sinceFlush id got ++ [r]).length ∧
      ∃ m, ((fed got).accept r).2 = some m ∧ (Parcel.joined id (sinceFlush id got ++ [r])).Makes m := by
  have hout := ((gathers_fed got).accept r).2
  simp only [parcel?, h] at hout
  rw [List.length_append, List.length_singleton]
  by_cases hmore : (sinceFlush id got).length + 1 < total
  · rw [if_pos hmore] at hout
    refine .inl ⟨hmore, ?_⟩
    generalize ((fed got).accept r).2 = message at hout
    cases hout
    rfl
  · rw [if_neg hmore] at hout
    refine .inr ⟨Nat.le_of_not_lt hmore, ?_⟩
    generalize ((fed got).accept r).2 = message at hout
    cases hout with
    | some hmakes => exact ⟨_, rfl, hmakes⟩

/-- With a chunk its message comes out exactly when as many chunks of its transaction are there as it declares, and it
is made of them. They are the whole message if and only if they agree. -/
theorem whole_iff (got : List TopicResponse) (h : r.piece? = some (id, total)) :
    (((fed got).accept r).2.isSome = true ↔ total ≤ (sinceFlush id got ++ [r]).length) ∧
    ∀ m, ((fed got).accept r).2 = some m →
      (Parcel.joined id (sinceFlush id got ++ [r])).Makes m ∧
      (Whole id (sinceFlush id got ++ [r]) ↔ Agree id total (sinceFlush id got ++ [r])) := by
  rcases accept_piece got h with ⟨hfew, hout⟩ | ⟨henough, m, hout, hmakes⟩
  · rw [hout]
    refine ⟨by simpa using hfew, ?_⟩
    intro m hm
    cases hm
  · rw [hout]
    refine ⟨by simpa using henough, ?_⟩
    rintro _ ⟨⟩
    refine ⟨hmakes, ?_, fun hagree => hagree.whole henough⟩
    intro hwhole
    exact hwhole.agree (List.mem_append_right _ (List.mem_singleton_self r)) h

/-- A chunk of a message that reads "x" in each of its chunks. -/
def chunkOf (number total : UInt32) : TopicResponse :=
  ⟨⟨1, 0⟩, 1, [], [120], some ⟨"0.0.2@1.0", number, total⟩⟩

/-- Two chunks in reverse are a whole message. -/
theorem whole_iff_reversed :
    (chunkOf 1 2).piece? = some ("0.0.2@1.0", 2) ∧
      ((fed [chunkOf 2 2]).accept (chunkOf 1 2)).2 = some ⟨⟨1, 0⟩, 1, [], [120, 120], 2, some "0.0.2@1.0"⟩ ∧
      Whole "0.0.2@1.0" [chunkOf 2 2, chunkOf 1 2] := by
  have hpiece : (chunkOf 1 2).piece? = some ("0.0.2@1.0", 2) := by decide
  have hout : ((fed [chunkOf 2 2]).accept (chunkOf 1 2)).2 =
      some ⟨⟨1, 0⟩, 1, [], [120, 120], 2, some "0.0.2@1.0"⟩ := by cbv
  have hagree : Agree "0.0.2@1.0" 2 [chunkOf 2 2, chunkOf 1 2] := ⟨by decide, by decide, by decide⟩
  exact ⟨hpiece, hout, (((whole_iff [chunkOf 2 2] hpiece).2 _ hout).2).mpr hagree⟩

/-- A chunk that comes twice counts for the one that is missing. -/
theorem not_always_whole : ¬ ∀ (got : List TopicResponse) (r : TopicResponse) (id : String) (total : Nat)
    (m : TopicMessage), r.piece? = some (id, total) → ((fed got).accept r).2 = some m →
      Whole id (sinceFlush id got ++ [r]) := by
  intro h
  have hwhole := h [chunkOf 1 2] (chunkOf 1 2) "0.0.2@1.0" 2 ⟨⟨1, 0⟩, 1, [], [120, 120], 2, some "0.0.2@1.0"⟩
    (by decide) (by cbv)
  have hlast : chunkOf 1 2 ∈ sinceFlush "0.0.2@1.0" [chunkOf 1 2] ++ [chunkOf 1 2] := by decide
  have hpiece : (chunkOf 1 2).piece? = some ("0.0.2@1.0", 2) := by decide
  have honce := (hwhole.agree hlast hpiece).once
  exact absurd honce (by decide)

end ChunkBuffer

end LedgerNet
