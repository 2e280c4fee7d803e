import LedgerNet.Proofs.Json.Record
import LedgerNet.Proofs.Text.Split
import LedgerNet.Endpoint

/-! Which endpoints can be stored, and that each of these is read back as it was. -/
namespace LedgerNet.Endpoint

open Text

/-- An endpoint that has a text: neither its host nor its name is empty, and the host is not taken for another thing. -/
def Spelled : Endpoint → Prop
  | .remote host _ _ => host ≠ "" ∧ host ≠ scheme ∧ ':' ∉ host.toList
  | .inProcess name => name ≠ ""

theorem text_remote (host : String) (port : UInt16) (secure : Bool) :
    (text (.remote host port secure)).toList = host.toList ++ ':' :: Nat.toDigits 10 port.toNat := by
  have hport : (toString port.toNat).toList = Nat.toDigits 10 port.toNat := Nat.toList_repr
  simp only [text, String.toList_append, hport, List.append_assoc]
  rfl

theorem text_inProcess (name : String) : (text (.inProcess name)).toList = scheme.toList ++ ':' :: name.toList := by
  simp only [text, String.toList_append, List.append_assoc]
  rfl

theorem parse_remote {host : String} {port : UInt16} {secure : Bool} (h : (remote host port secure).Spelled) :
    parse (text (.remote host port secure)) = .ok (.remote host port false) := by
  obtain ⟨hhost, hscheme, hcolon⟩ := h
  have hdigits : ':' ∉ Nat.toDigits 10 port.toNat := fun h => absurd (Natural.digit_of_mem h) (by decide)
  have hport : Natural.read? Natural.max16 (Nat.toDigits 10 port.toNat) = some port.toNat :=
    Natural.read_toDigits (Nat.le_of_lt_succ port.toNat_lt)
  simp [parse, text_remote, cut_append hcolon, hhost, String.toList_inj, hscheme, hdigits, hport]

theorem parse_inProcess {name : String} (h : (inProcess name).Spelled) :
    parse (text (.inProcess name)) = .ok (.inProcess name) := by
  have hname : name ≠ "" := h
  have hscheme : ':' ∉ scheme.toList := by decide
  simp [parse, text_inProcess, cut_append hscheme, hname]

/-- Only the mark makes an address look marked: what follows the colon of any other does not begin with a slash. -/
theorem unmarked {left right : List Char} (hcolon : ':' ∉ left)
    (h : left = ['t', 'l', 's'] → right.head? ≠ some '/') :
    dropStart securedMark.toList (left ++ ':' :: right) = none := by
  rw [Option.eq_none_iff_forall_ne_some]
  intro rest hdrop
  have hcut : cut ':' (left ++ ':' :: right) = some (['t', 'l', 's'], '/' :: '/' :: rest) := by
    have hmark : ':' ∉ ['t', 'l', 's'] := by decide
    rw [eq_of_dropStart hdrop]
    exact cut_append hmark _
  rw [cut_append hcolon] at hcut
  cases hcut
  exact h rfl rfl

/-- An endpoint that has a text is read back from what is stored of it. -/
theorem ofStored_stored {e : Endpoint} (h : e.Spelled) : ofStored e.stored = .ok e := by
  cases e with
  | inProcess name =>
    have hplain : dropStart securedMark.toList (text (.inProcess name)).toList = none := by
      rw [text_inProcess]
      exact unmarked (by decide) (fun h => absurd h (by decide))
    simp [stored, ofStored, hplain, parse_inProcess h]
  | remote host port secure =>
    cases secure with
    | true => simp [stored, ofStored, String.toList_append, dropStart_append, parse_remote h, secured]
    | false =>
      have hdigit : (Nat.toDigits 10 port.toNat).head? ≠ some '/' :=
        fun h => absurd (Natural.digit_of_mem (List.mem_of_head? h)) (by decide)
      have hplain : dropStart securedMark.toList (text (.remote host port false)).toList = none := by
        rw [text_remote]
        exact unmarked h.2.2 (fun _ => hdigit)
      simp [stored, ofStored, hplain, parse_remote h]

theorem spelled_of_parse {s : String} {e : Endpoint} (h : parse s = .ok e) : e.Spelled := by
  unfold parse at h
  split at h
  · cases h
  · rename_i left right hcut
    have hcolon := (eq_of_cut hcut).1
    split at h
    · split at h
      · cases h
      · rename_i hname
        cases h
        simpa [Spelled] using hname
    · rename_i hscheme
      split at h
      · cases h
      · rename_i hleft
        split at h
        · cases h
        · split at h
          · cases h
          · split at h
            · cases h
            · cases h
              refine ⟨by simpa using hleft, ?_, by simpa using hcolon⟩
              intro heq
              exact hscheme (by rw [← heq, String.toList_ofList])

/-- An address that was read is read back from its text. -/
theorem parse_text {s : String} {e : Endpoint} (h : parse s = .ok e) : parse e.text = .ok e := by
  have hspelled := spelled_of_parse h
  cases e with
  | inProcess name => exact parse_inProcess hspelled
  | remote host port secure =>
    have hplain : secure = false := by
      unfold parse at h
      repeat' split at h
      all_goals cases h
      rfl
    rw [parse_remote hspelled, hplain]

theorem Spelled.secured {e : Endpoint} (h : e.Spelled) : e.secured.Spelled := by
  cases e <;> exact h

/-- Every endpoint that was stored has a text. -/
theorem spelled_of_ofStored {s : String} {e : Endpoint} (h : ofStored s = .ok e) : e.Spelled := by
  unfold ofStored at h
  split at h
  · dsimp only at h
    split at h
    · rename_i hparse
      cases h
      exact (spelled_of_parse hparse).secured
    · cases h
  · split at h
    · rename_i hparse
      cases h
      exact spelled_of_parse hparse
    · cases h

theorem reading_toJson {e : Endpoint} (h : e.Spelled) : reading e.toJson.tree = .ok e :=
  Json.textual_tree (ofStored_stored h)

theorem spelled_of_reading {t : Json.Tree} {e : Endpoint} (h : reading t = .ok e) : e.Spelled := by
  obtain ⟨s, hs⟩ := Json.textual_ok h
  exact spelled_of_ofStored hs

end LedgerNet.Endpoint
