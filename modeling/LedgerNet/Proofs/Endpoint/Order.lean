import Mathlib
import LedgerNet.Network.EndpointMap

namespace LedgerNet

namespace Endpoint

theorem compare_texts_eq {s s' : String} : compareOfLessAndEq s s' = .eq ↔ s = s' :=
  compareOfLessAndEq_eq_eq String.le_refl String.not_le

theorem order_remote_lt {h h' : String} {p p' : UInt16} {s s' : Bool} :
    order (.remote h p s) (.remote h' p' s') = .lt ↔
      h < h' ∨ h = h' ∧ (p.toNat < p'.toNat ∨ p.toNat = p'.toNat ∧ s.toNat < s'.toNat) := by
  simp [order, Ordering.then_eq_lt, Nat.compare_eq_lt, compare_texts_eq]

theorem order_inProcess_lt {n n' : String} : order (.inProcess n) (.inProcess n') = .lt ↔ n < n' := by
  simp [order]

/-- Only equal endpoints tie. -/
theorem order_eq {a b : Endpoint} : order a b = .eq ↔ a = b := by
  cases a with
  | remote h p s =>
    cases b with
    | remote h' p' s' =>
      have hp : p.toNat = p'.toNat ↔ p = p' := UInt16.toNat_inj
      have hs : s.toNat = s'.toNat ↔ s = s' := by cases s <;> cases s' <;> decide
      simp [order, compare_texts_eq, hp, hs]
    | inProcess n => simp [order]
  | inProcess n =>
    cases b with
    | remote h p s => simp [order]
    | inProcess n' => simp [order, compare_texts_eq]

theorem order_trans {a b c : Endpoint} (hab : order a b = .lt) (hbc : order b c = .lt) :
    order a c = .lt := by
  cases a <;> cases b <;> cases c <;> try (first | rfl | contradiction)
  · rw [order_remote_lt] at *
    rcases hab with hab | ⟨rfl, hab⟩ <;> rcases hbc with hbc | ⟨rfl, hbc⟩
    · exact .inl (String.lt_trans hab hbc)
    · exact .inl hab
    · exact .inl hbc
    · exact .inr ⟨rfl, by omega⟩
  · rw [order_inProcess_lt] at *
    exact String.lt_trans hab hbc

theorem order_gt {a b : Endpoint} (h : order a b = .gt) : order b a = .lt := by
  cases a with
  | remote n p s =>
    cases b with
    | remote n' p' s' =>
      have ht : compareOfLessAndEq n n' = .gt ↔ n' < n :=
        compareOfLessAndEq_eq_gt String.le_antisymm String.le_total String.not_le n n'
      simp only [order, Ordering.then_eq_gt, ht, compare_texts_eq, Nat.compare_eq_gt,
        Nat.compare_eq_eq] at h
      rw [order_remote_lt]
      rcases h with h | ⟨rfl, h⟩
      · exact .inl h
      · exact .inr ⟨rfl, by omega⟩
    | inProcess m => cases h
  | inProcess n =>
    cases b with
    | remote m p s => rfl
    | inProcess n' =>
      rw [order_inProcess_lt]
      exact (compareOfLessAndEq_eq_gt String.le_antisymm String.le_total String.not_le n n').mp h

theorem order_gt_of_lt {a b : Endpoint} (h : order a b = .lt) : order b a = .gt := by
  cases hba : order b a with
  | lt =>
    have hself := order_trans h hba
    rw [order_eq.mpr rfl] at hself
    cases hself
  | eq =>
    rw [order_eq.mpr (order_eq.mp hba).symm] at h
    cases h
  | gt => rfl

instance : Std.OrientedCmp order where
  eq_swap {a b} := by
    cases h : order b a with
    | lt => exact order_gt_of_lt h
    | eq => exact order_eq.mpr (order_eq.mp h).symm
    | gt => exact order_gt h

instance : Std.TransCmp order where
  isLE_trans {a b c} hab hbc := by
    rw [Ordering.isLE_iff_eq_lt_or_eq_eq] at *
    rcases hab with hab | hab
    · rcases hbc with hbc | hbc
      · exact .inl (order_trans hab hbc)
      · exact order_eq.mp hbc ▸ .inl hab
    · exact order_eq.mp hab ▸ hbc

instance : Std.LawfulEqCmp order where
  compare_self := order_eq.mpr rfl
  eq_of_compare := order_eq.mp

end Endpoint

namespace EndpointMap
open Endpoint

variable {α : Type}

/-- The keys stand in order, so that none stands twice. -/
def Sorted (map : EndpointMap α) : Prop := map.Pairwise fun a b => order a.1 b.1 = .lt

theorem mem_insert {e : Endpoint} {a : α} {map : EndpointMap α} {p : Endpoint × α}
    (hp : p ∈ insert e a map) : p = (e, a) ∨ p ∈ map := by
  induction map with
  | nil => exact .inl (by simpa [insert] using hp)
  | cons q rest ih =>
    obtain ⟨e', a'⟩ := q
    simp only [insert] at hp
    split at hp
    · simpa using hp
    · rcases List.mem_cons.mp hp with hp | hp
      · exact .inl hp
      · exact .inr (List.mem_cons_of_mem _ hp)
    · rcases List.mem_cons.mp hp with hp | hp
      · exact .inr (hp ▸ List.mem_cons_self)
      · exact (ih hp).imp_right (List.mem_cons_of_mem _)

theorem Sorted.insert {map : EndpointMap α} (h : map.Sorted) (e : Endpoint) (a : α) :
    (EndpointMap.insert e a map).Sorted := by
  induction map with
  | nil => exact List.pairwise_singleton _ _
  | cons q rest ih =>
    obtain ⟨e', a'⟩ := q
    obtain ⟨hhead, htail⟩ := List.pairwise_cons.mp h
    simp only [EndpointMap.insert]
    split
    · rename_i hlt
      refine List.pairwise_cons.mpr ⟨?_, h⟩
      intro p hp
      rcases List.mem_cons.mp hp with rfl | hp
      · exact hlt
      · exact order_trans hlt (hhead p hp)
    · rename_i heq
      have := order_eq.mp heq
      subst this
      exact List.pairwise_cons.mpr ⟨hhead, htail⟩
    · rename_i hgt
      refine List.pairwise_cons.mpr ⟨?_, ih htail⟩
      intro p hp
      rcases mem_insert hp with rfl | hp
      · exact order_gt hgt
      · exact hhead p hp

/-- What holds of the empty map and is kept by every insertion holds of a map of pairs. -/
theorem ofPairs_induction {P : EndpointMap α → Prop} (pairs : List (Endpoint × α)) (nil : P [])
    (insert : ∀ map, P map → ∀ p ∈ pairs, P (EndpointMap.insert p.1 p.2 map)) : P (ofPairs pairs) := by
  unfold ofPairs
  generalize ([] : EndpointMap α) = map at nil ⊢
  induction pairs generalizing map with
  | nil => exact nil
  | cons p rest ih =>
    exact ih (fun map h q hq => insert map h q (List.mem_cons_of_mem _ hq)) _
      (insert map nil p List.mem_cons_self)

theorem ofPairs_sorted (pairs : List (Endpoint × α)) : (ofPairs pairs).Sorted :=
  ofPairs_induction pairs List.Pairwise.nil fun _ h p _ => h.insert p.1 p.2

/-- What comes after all that is there is put behind it. -/
theorem insert_last {map : EndpointMap α} {e : Endpoint} (h : ∀ p ∈ map, order p.1 e = .lt) (a : α) :
    EndpointMap.insert e a map = map ++ [(e, a)] := by
  induction map with
  | nil => rfl
  | cons p rest ih =>
    obtain ⟨hp, hrest⟩ := List.forall_mem_cons.mp h
    simp only [EndpointMap.insert, order_gt_of_lt hp, ih hrest, List.cons_append]

/-- The pairs of a map, in its order, make the map again. -/
theorem Sorted.ofPairs_eq {map : EndpointMap α} (h : map.Sorted) : ofPairs map = map := by
  have hfold : ∀ done : EndpointMap α, (done ++ map).Sorted →
      map.foldl (fun map pair => EndpointMap.insert pair.1 pair.2 map) done = done ++ map := by
    clear h
    induction map with
    | nil => exact fun done _ => (List.append_nil done).symm
    | cons p rest ih =>
      intro done hdone
      have hlast : ∀ q ∈ done, order q.1 p.1 = .lt := fun q hq =>
        (List.pairwise_append.mp hdone).2.2 q hq p List.mem_cons_self
      rw [List.foldl_cons, insert_last hlast, ih _ (by simpa using hdone), List.append_assoc]
      rfl
  exact hfold [] h

theorem mem_of_mem_ofPairs (pairs : List (Endpoint × α)) : ∀ p ∈ ofPairs pairs, p ∈ pairs := by
  refine ofPairs_induction (P := fun map => ∀ p ∈ map, p ∈ pairs) pairs (fun _ hq => nomatch hq) ?_
  intro map h p hp q hq
  rcases mem_insert hq with rfl | hq
  · exact hp
  · exact h q hq

theorem get?_cons (p : Endpoint × α) (map : EndpointMap α) (e : Endpoint) :
    get? (p :: map) e = if e = p.1 then some p.2 else get? map e := by
  obtain ⟨e', a⟩ := p
  by_cases h : e = e'
  · simp [get?, h]
  · have hne : (e == e') = false := by simpa using h
    simp [get?, List.lookup_cons, h, hne]

theorem get?_insert (e : Endpoint) (a : α) (map : EndpointMap α) (e' : Endpoint) :
    get? (EndpointMap.insert e a map) e' = if e' = e then some a else map.get? e' := by
  induction map with
  | nil => exact get?_cons (e, a) [] e'
  | cons p rest ih =>
    simp only [EndpointMap.insert]
    cases h : order e p.1 with
    | lt => exact get?_cons (e, a) (p :: rest) e'
    | eq =>
      simp only [get?_cons, order_eq.mp h]
      split <;> rfl
    | gt =>
      have hne : p.1 ≠ e := by
        intro heq
        rw [order_eq.mpr heq.symm] at h
        cases h
      simp only [get?_cons, ih]
      by_cases he : e' = p.1
      · simp [he, hne]
      · simp [he]

/-- At an endpoint stands what was given for it last. -/
theorem get?_ofPairs (pairs : List (Endpoint × α)) (e : Endpoint) :
    (ofPairs pairs).get? e = pairs.reverse.lookup e := by
  induction pairs using List.reverseRecOn with
  | nil => rfl
  | append_singleton rest p ih =>
    have hlast : ofPairs (rest ++ [p]) = EndpointMap.insert p.1 p.2 (ofPairs rest) := List.foldl_append
    have hreverse : (rest ++ [p]).reverse = p :: rest.reverse := by simp
    rw [hlast, get?_insert, ih, hreverse]
    exact (get?_cons p rest.reverse e).symm

/-- Where no key stands twice, a pair is there exactly when it is found under its key. -/
theorem mem_iff_get? {map : EndpointMap α} (h : (map.map (·.1)).Nodup) (e : Endpoint) (a : α) :
    (e, a) ∈ map ↔ map.get? e = some a := by
  induction map with
  | nil => simp [get?]
  | cons p rest ih =>
    obtain ⟨hp, hrest⟩ := List.nodup_cons.mp h
    rw [List.mem_cons, get?_cons, ih hrest]
    by_cases he : e = p.1
    · have hnone : get? rest p.1 ≠ some a :=
        fun hs => hp (List.mem_map.mpr ⟨(e, a), (ih hrest).mpr (he ▸ hs), he⟩)
      simp [he, hnone, Prod.ext_iff, eq_comm]
    · simp [he, Prod.ext_iff]

/-- Something stands at every endpoint that was given, and nowhere else. -/
theorem get?_ofPairs_some_iff {pairs : List (Endpoint × α)} {e : Endpoint} :
    (∃ a, (ofPairs pairs).get? e = some a) ↔ e ∈ pairs.map (·.1) := by
  rw [get?_ofPairs]
  constructor
  · rintro ⟨a, ha⟩
    obtain ⟨before, after, heq, -⟩ := List.lookup_eq_some_iff.mp ha
    have hmem : (e, a) ∈ pairs.reverse := by simp [heq]
    exact List.mem_map_of_mem (List.mem_reverse.mp hmem)
  · intro he
    obtain ⟨p, hp, rfl⟩ := List.mem_map.mp he
    cases hl : pairs.reverse.lookup p.1 with
    | some a => exact ⟨a, rfl⟩
    | none => simpa using List.lookup_eq_none_iff.mp hl p (List.mem_reverse.mpr hp)

theorem Sorted.nodup_keys {map : EndpointMap α} (h : map.Sorted) : (map.map (·.1)).Nodup := by
  refine List.pairwise_map.mpr (List.Pairwise.imp ?_ h)
  intro a b hlt heq
  rw [order_eq.mpr heq] at hlt
  contradiction

end EndpointMap

end LedgerNet
