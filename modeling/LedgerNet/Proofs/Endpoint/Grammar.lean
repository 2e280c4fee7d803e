import LedgerNet.Proofs.Endpoint.Stored
import LedgerNet.Proofs.Text.Decimal

/-! The grammar of endpoint texts, and how the three texts of one endpoint relate. -/
namespace LedgerNet.Endpoint

open Text

/-- The texts of addresses. A name may hold any characters, colons too; a host holds no colon and is not the
word that marks a name. -/
inductive Written : String → Endpoint → Prop where
  | inProcess {name : String} (named : name ≠ "") : Written (scheme ++ ":" ++ name) (.inProcess name)
  | remote {host digits : String} {port : UInt16} (hosted : host ≠ "") (single : ':' ∉ host.toList)
      (unlike : host ≠ scheme) (numbered : Natural.Denotes digits.toList port.toNat) :
      Written (host ++ ":" ++ digits) (.remote host port false)

theorem Written.parse {s : String} {e : Endpoint} (h : Written s e) : parse s = .ok e := by
  cases h with
  | @inProcess name named =>
    have hscheme : ':' ∉ scheme.toList := by decide
    simp [Endpoint.parse, cut_append hscheme, named]
  | @remote host digits port hosted single unlike numbered =>
    have hlimit : port.toNat ≤ Natural.max16 := Nat.le_of_lt_succ port.toNat_lt
    have hread := Natural.read_iff.mpr ⟨numbered, hlimit⟩
    have hcolon : ':' ∉ digits.toList := numbered.not_mem (by decide) (by decide)
    have hdigits : digits ≠ "" := by
      rintro rfl
      cases hread
    simp [Endpoint.parse, cut_append single, String.toList_inj, unlike, hosted, hdigits, hcolon, hread]

theorem eq_of_cut_text {s : String} {left right : List Char} (h : cut ':' s.toList = some (left, right)) :
    ':' ∉ left ∧ s = String.ofList left ++ ":" ++ String.ofList right := by
  obtain ⟨hleft, hs⟩ := eq_of_cut h
  refine ⟨hleft, String.toList_inj.mp ?_⟩
  simpa using hs

theorem written_of_parse {s : String} {e : Endpoint} (h : Endpoint.parse s = .ok e) : Written s e := by
  unfold Endpoint.parse at h
  split at h
  · cases h
  rename_i left right hcut
  obtain ⟨hcolon, rfl⟩ := eq_of_cut_text hcut
  split at h
  · rename_i hscheme
    split at h
    · cases h
    · rename_i hname
      cases h
      rw [hscheme, String.ofList_toList]
      exact .inProcess (by simpa using hname)
  · rename_i hscheme
    repeat' split at h
    all_goals try cases h
    rename_i hleft _ _ _ port hread
    obtain ⟨hport, hlimit⟩ := Natural.read_iff.mp hread
    have hkept : (UInt16.ofNat port).toNat = port := UInt16.toNat_ofNat_of_lt' (Nat.lt_succ_of_le hlimit)
    refine .remote (by simpa using hleft) (by simpa using hcolon) ?_ (by rwa [String.toList_ofList, hkept])
    intro hhost
    exact hscheme (by rw [← hhost, String.toList_ofList])

theorem parse_iff {s : String} {e : Endpoint} : Endpoint.parse s = .ok e ↔ Written s e :=
  ⟨written_of_parse, Written.parse⟩

/-- An endpoint that some text was read as: an address, or what is stored of one. -/
inductive Obtained : Endpoint → Prop where
  | parsed {s : String} {e : Endpoint} (h : Endpoint.parse s = .ok e) : Obtained e
  | restored {s : String} {e : Endpoint} (h : ofStored s = .ok e) : Obtained e
  | read {t : Json.Tree} {e : Endpoint} (h : reading t = .ok e) : Obtained e

theorem obtained_iff {e : Endpoint} : e.Obtained ↔ e.Spelled := by
  refine ⟨fun h => ?_, fun h => .restored (ofStored_stored h)⟩
  cases h with
  | parsed h => exact spelled_of_parse h
  | restored h => exact spelled_of_ofStored h
  | read h => exact spelled_of_reading h

/-- The endpoint without its demand for TLS. -/
def unforced : Endpoint → Endpoint
  | .remote host port _ => .remote host port false
  | e => e

/-- The address of an endpoint leads back to it, but for its demand for TLS. -/
theorem parse_text_unforced {e : Endpoint} (h : e.Spelled) : Endpoint.parse e.text = .ok e.unforced := by
  cases e with
  | remote host port secure => exact parse_remote h
  | inProcess name => exact parse_inProcess h

/-- Different endpoints are stored differently. -/
theorem stored_injective {e e' : Endpoint} (h : e.Spelled) (h' : e'.Spelled) (hstored : e.stored = e'.stored) :
    e = e' := by
  have hread := ofStored_stored h
  rw [hstored, ofStored_stored h'] at hread
  exact (Except.ok.inj hread).symm

/-- What is an address is decided by the grammar, and the texts of an endpoint that was read are faithful: what is
stored, as a text or as JSON, leads back to it and to no other, and its address leads back to it but for its
demand for TLS. -/
theorem texts_faithful :
    (∀ s e, Endpoint.parse s = .ok e ↔ Written s e) ∧
    (∀ e : Endpoint, e.Obtained → ofStored e.stored = .ok e ∧
      Json.readText reading e.toJson.compact = .ok e ∧ Endpoint.parse e.text = .ok e.unforced) ∧
    ∀ e e' : Endpoint, e.Obtained → e'.Obtained → e.stored = e'.stored → e = e' := by
  refine ⟨fun s e => parse_iff, fun e h => ?_, fun e e' h h' => ?_⟩
  · have hspelled := obtained_iff.mp h
    refine ⟨ofStored_stored hspelled, ?_, parse_text_unforced hspelled⟩
    rw [Json.readText, Json.readSymbols_compact, reading_toJson hspelled]
  · exact stored_injective (obtained_iff.mp h) (obtained_iff.mp h')

/-- A host that looks like the mark of a demand for TLS, at the largest port, is read back with and without the
demand, and so is a name that looks like an address. -/
theorem texts_faithful_lookalikes :
    ofStored "tls://tls:+065535" = .ok (.remote "tls" 65535 true) ∧
    ofStored "tls://tls:65535" = .ok (.remote "tls" 65535 true) ∧
    Endpoint.parse "tls:65535" = .ok (.remote "tls" 65535 false) ∧
    Endpoint.parse "in-process:h:1" = .ok (.inProcess "h:1") ∧
    stored (.remote "tls" 65535 true) ≠ stored (.inProcess "h:1") := by
  have hforced : ofStored "tls://tls:+065535" = .ok (.remote "tls" 65535 true) := by decide
  have hnamed : Endpoint.parse "in-process:h:1" = .ok (.inProcess "h:1") := by decide
  obtain ⟨hstored, -, haddress⟩ := texts_faithful.2.1 _ (.restored hforced)
  refine ⟨hforced, hstored, haddress, (texts_faithful.2.1 _ (.parsed hnamed)).2.2, fun h => ?_⟩
  exact nomatch texts_faithful.2.2 _ _ (.restored hforced) (.parsed hnamed) h

end LedgerNet.Endpoint
