import LedgerNet.Proofs.Time.Timestamp
import LedgerNet.Simulation.Services

/-!
Going on with a query after some of its items. A mirror is asked for what comes right after the last of them, and as
much of it as the limit leaves: that is all the rest, and nothing twice.
-/
namespace LedgerNet

open Wire

/-- A log as a ledger keeps it: each item is stamped after the one before it, at a time that has a next one. -/
structure IsLedgerLog (log : List TopicResponse) : Prop where
  rising : log.Pairwise fun a b => a.timestamp.Precedes b.timestamp
  normal : ∀ r ∈ log, r.timestamp.IsNormal
  early : ∀ r ∈ log, r.timestamp.seconds.toInt < Int64.maxValue.toInt

/-- Items each of which is stamped after the one before it. -/
structure InOrder (log : List TopicResponse) : Prop where
  rising : log.Pairwise fun a b => a.timestamp.Precedes b.timestamp
  normal : ∀ r ∈ log, r.timestamp.IsNormal

theorem IsLedgerLog.inOrder {log : List TopicResponse} (h : IsLedgerLog log) : InOrder log := ⟨h.rising, h.normal⟩

/-- There is an instant right after the last of some items. -/
def HasNext (got : List TopicResponse) : Prop := ∀ r ∈ got.getLast?, r.timestamp.reaches 1 = true

theorem IsLedgerLog.hasNext {log got : List TopicResponse} (h : IsLedgerLog log) (hsub : got ⊆ log) : HasNext got := by
  intro r hr
  have hmem : r ∈ log := hsub (List.mem_of_getLast? hr)
  exact Timestamp.reaches_next (h.normal r hmem) (h.early r hmem)

/-- There is one where another item comes behind them. -/
theorem InOrder.hasNext {log got rest : List TopicResponse} (h : InOrder log) (hsub : (got ++ rest).Sublist log)
    (hrest : rest ≠ []) : HasNext got := by
  intro r hr
  obtain ⟨s, hs⟩ := List.exists_mem_of_ne_nil rest hrest
  have hgot : r ∈ got := List.mem_of_getLast? hr
  have hbefore := (List.pairwise_append.mp (h.rising.sublist hsub)).2.2 r hgot s hs
  exact hbefore.reaches_next (h.normal r (hsub.subset (List.mem_append_left _ hgot)))
    (h.normal s (hsub.subset (List.mem_append_right _ hs)))

namespace Simulation.Mirror

/-- Whether an item is in the time that a query asks for. -/
def spans (q : MirrorQuery) (r : TopicResponse) : Bool :=
  q.start.all (·.atMost r.timestamp) && q.stop.all fun stop => !stop.atMost r.timestamp

theorem asked_eq (log : List TopicResponse) (q : MirrorQuery) :
    asked log q = if q.limit = 0 then log.filter (spans q) else (log.filter (spans q)).take q.limit.toNat := rfl

theorem asked_sublist (log : List TopicResponse) (q : MirrorQuery) : (asked log q).Sublist log := by
  rw [asked_eq]
  split
  · exact List.filter_sublist
  · exact (List.take_sublist _ _).trans List.filter_sublist

theorem limit_ne_zero {q : MirrorQuery} (h : 0 < q.limit.toNat) : q.limit ≠ 0 := by
  intro hz
  rw [hz] at h
  exact absurd h (by decide)

/-- No more is sent than a limit allows. -/
theorem length_asked (log : List TopicResponse) {q : MirrorQuery} (h : 0 < q.limit.toNat) :
    (asked log q).length ≤ q.limit.toNat := by
  rw [asked_eq, if_neg (limit_ne_zero h)]
  exact List.length_take_le _ _

/-- What was sent of a query, and what is in its time beyond that. -/
theorem asked_split {log : List TopicResponse} {q : MirrorQuery} {got rest : List TopicResponse}
    (h : asked log q = got ++ rest) : ∃ post, log.filter (spans q) = got ++ post ∧
      rest = if q.limit = 0 then post else post.take (q.limit.toNat - got.length) := by
  rw [asked_eq] at h
  split at h
  · rename_i hz
    exact ⟨rest, h, by rw [if_pos hz]⟩
  · rename_i hz
    have hprefix : got <+: log.filter (spans q) :=
      (List.prefix_append got rest).trans (h ▸ List.take_prefix _ _)
    refine ⟨(log.filter (spans q)).drop got.length, (List.prefix_iff_eq_append.mp hprefix).symm, ?_⟩
    rw [if_neg hz, ← List.drop_take, h, List.drop_left]

/-- In a rising list, what is stamped after one of the items is what comes behind it. -/
theorem filter_after {before post : List TopicResponse} {r : TopicResponse}
    (h : (before ++ r :: post).Pairwise fun a b => a.timestamp.Precedes b.timestamp) {p : TopicResponse → Bool}
    (hp : ∀ s ∈ before ++ r :: post, p s = true ↔ r.timestamp.Precedes s.timestamp) :
    (before ++ r :: post).filter p = post := by
  obtain ⟨_, hr, hcross⟩ := List.pairwise_append.mp h
  have hbefore : before.filter p = [] := by
    rw [List.filter_eq_nil_iff]
    intro s hs hps
    have hsr := hcross s hs r List.mem_cons_self
    exact hsr.asymm ((hp s (List.mem_append_left _ hs)).mp hps)
  have hhead : p r = false := by
    rw [Bool.eq_false_iff]
    intro hpr
    exact Timestamp.Precedes.irrefl _ ((hp r (List.mem_append_right _ List.mem_cons_self)).mp hpr)
  have hpost : post.filter p = post := by
    rw [List.filter_eq_self]
    intro s hs
    have hs' : s ∈ before ++ r :: post := List.mem_append_right _ (List.mem_cons_of_mem _ hs)
    exact (hp s hs').mpr ((List.pairwise_cons.mp hr).1 s hs)
  rw [List.filter_append, List.filter_cons, hbefore, hhead, hpost]
  rfl

/-- The items in the time that is asked for when a query goes on after one of its items. -/
theorem filter_resumed {log : List TopicResponse} (hlog : InOrder log) {q next : MirrorQuery}
    {before post : List TopicResponse} {r : TopicResponse} (hq : log.filter (spans q) = before ++ r :: post)
    (hnext : r.timestamp.reaches 1 = true) (hstart : next.start = some (r.timestamp.plusNanos 1))
    (hstop : next.stop = q.stop) : log.filter (spans next) = post := by
  have hsub : (before ++ r :: post).Sublist log := hq ▸ List.filter_sublist
  have hmem : r ∈ log.filter (spans q) := by
    rw [hq]
    exact List.mem_append_right _ List.mem_cons_self
  obtain ⟨hr, hspans⟩ := List.mem_filter.mp hmem
  have hafter (s : TopicResponse) (hs : s ∈ log) :
      (r.timestamp.plusNanos 1).atMost s.timestamp = true ↔ r.timestamp.Precedes s.timestamp :=
    Timestamp.next_atMost (hlog.normal r hr) (hlog.normal s hs) hnext
  -- What comes after an item that was asked for comes after the start as well.
  have hboth : ∀ s ∈ log, spans next s = ((r.timestamp.plusNanos 1).atMost s.timestamp && spans q s) := by
    intro s hs
    cases h : (r.timestamp.plusNanos 1).atMost s.timestamp with
    | false => simp [spans, hstart, h]
    | true =>
      have hrs := (hafter s hs).mp h
      have hfrom : q.start.all (·.atMost s.timestamp) = true := by
        rw [spans, Bool.and_eq_true] at hspans
        cases hqs : q.start with
        | none => rfl
        | some start =>
          rw [hqs] at hspans
          exact Timestamp.atMost_trans hspans.1 hrs
      simp [spans, hstart, hstop, h, hfrom]
  rw [List.filter_congr hboth, ← List.filter_filter, hq]
  exact filter_after (hlog.rising.sublist hsub) fun s hs => hafter s (hsub.subset hs)

end Simulation.Mirror

namespace TopicQuery

open Simulation

/-- A query that has met its limit has got all its items. -/
theorem resume_none {log : List TopicResponse} {q : TopicQuery} {got rest : List TopicResponse}
    (hall : Mirror.asked log (.ofQuery q) = got ++ rest) {last : Option Timestamp}
    (h : q.resume last got.length = none) : rest = [] := by
  unfold resume at h
  split at h
  · rename_i hmet
    have hlen := Mirror.length_asked log (q := .ofQuery q) hmet.1
    rw [hall, List.length_append] at hlen
    have hzero : rest.length = 0 := by
      have : (MirrorQuery.ofQuery q).limit.toNat ≤ got.length := hmet.2
      omega
    exact List.length_eq_zero_iff.mp hzero
  · cases h

/-- What is left of a limit still fits. -/
theorem toNat_left (limit : UInt64) (taken : Nat) :
    (UInt64.ofNat (limit.toNat - taken)).toNat = limit.toNat - taken := by
  have hlt : limit.toNat - taken < UInt64.size := Nat.lt_of_le_of_lt (Nat.sub_le _ _) limit.toNat_lt
  exact UInt64.toNat_ofNat_of_lt' hlt

/-- A query that goes on after some of its items asks for all the others. -/
theorem asked_resume {log : List TopicResponse} (hlog : InOrder log) {q next : TopicQuery}
    {got rest : List TopicResponse} (hall : Mirror.asked log (.ofQuery q) = got ++ rest) (hlast : HasNext got)
    (hnext : q.resume (got.getLast?.map (·.timestamp)) got.length = some next) :
    Mirror.asked log (.ofQuery next) = rest := by
  obtain ⟨post, htimes, hrest⟩ := Mirror.asked_split hall
  unfold resume at hnext
  split at hnext
  · cases hnext
  · rename_i hleft
    have htime : log.filter (Mirror.spans (.ofQuery next)) = post := by
      cases hnext
      rcases got.eq_nil_or_concat with rfl | ⟨before, r, rfl⟩
      · exact htimes
      · rw [List.concat_eq_append, List.append_assoc] at htimes
        exact Mirror.filter_resumed hlog htimes (hlast r (by simp)) (by simp [MirrorQuery.ofQuery]) rfl
    have hlimit : (MirrorQuery.ofQuery next).limit =
        if 0 < q.limit.toNat then UInt64.ofNat (q.limit.toNat - got.length) else 0 := by
      cases hnext
      rfl
    rw [Mirror.asked_eq, htime, hrest, hlimit]
    by_cases hz : (MirrorQuery.ofQuery q).limit = 0
    · have hnone : ¬ 0 < q.limit.toNat := fun h => Mirror.limit_ne_zero (q := .ofQuery q) h hz
      simp [hz, hnone]
    · have hsome : 0 < q.limit.toNat := by
        refine Nat.pos_of_ne_zero fun h => hz ?_
        exact UInt64.toNat_inj.mp h
      have hne : UInt64.ofNat (q.limit.toNat - got.length) ≠ 0 := by
        intro h
        have hzero : q.limit.toNat - got.length = 0 := (toNat_left q.limit got.length).symm.trans (congrArg _ h)
        omega
      rw [if_neg hz, if_pos hsome, if_neg hne, toNat_left]
      rfl

end TopicQuery

end LedgerNet
