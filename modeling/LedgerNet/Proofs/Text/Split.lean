import Mathlib
import LedgerNet.Text.Split

/-! Pieces put together with a separator between them come apart again, and what was put in front is taken off. -/
namespace LedgerNet.Text

theorem pieces_of_not_mem {sep : Char} {cs : List Char} (h : sep ∉ cs) : pieces sep cs = [cs] := by
  induction cs with
  | nil => rfl
  | cons c rest ih =>
    rw [List.mem_cons, not_or] at h
    simp [pieces, Ne.symm h.1, ih h.2]

theorem pieces_append {sep : Char} {cs : List Char} (h : sep ∉ cs) (rest : List Char) :
    pieces sep (cs ++ sep :: rest) = cs :: pieces sep rest := by
  induction cs with
  | nil => simp [pieces]
  | cons c more ih =>
    rw [List.mem_cons, not_or] at h
    simp [pieces, Ne.symm h.1, ih h.2]

theorem cut_append {sep : Char} {cs : List Char} (h : sep ∉ cs) (rest : List Char) :
    cut sep (cs ++ sep :: rest) = some (cs, rest) := by
  induction cs with
  | nil => simp [cut]
  | cons c more ih =>
    rw [List.mem_cons, not_or] at h
    simp [cut, Ne.symm h.1, ih h.2]

/-- A text is cut at its first separator. -/
theorem eq_of_cut {sep : Char} {text before after : List Char} (h : cut sep text = some (before, after)) :
    sep ∉ before ∧ text = before ++ sep :: after := by
  induction text generalizing before with
  | nil => cases h
  | cons c rest ih =>
    unfold cut at h
    split at h
    · rename_i hc
      cases h
      exact ⟨List.not_mem_nil, by rw [hc, List.nil_append]⟩
    · rename_i hc
      obtain ⟨⟨before', after'⟩, hcut, heq⟩ := Option.map_eq_some_iff.mp h
      cases heq
      obtain ⟨hsep, htext⟩ := ih hcut
      exact ⟨by simp [Ne.symm hc, hsep], by rw [htext, List.cons_append]⟩

theorem dropStart_append (start rest : List Char) : dropStart start (start ++ rest) = some rest := by
  induction start with
  | nil => rfl
  | cons c more ih => simp [dropStart, ih]

theorem eq_of_dropStart {start text rest : List Char} (h : dropStart start text = some rest) :
    text = start ++ rest := by
  induction start generalizing text with
  | nil => exact Option.some.inj h
  | cons c more ih =>
    cases text with
    | nil => cases h
    | cons d text =>
      unfold dropStart at h
      split at h
      · rename_i hc
        rw [ih h, hc, List.cons_append]
      · cases h

end LedgerNet.Text
