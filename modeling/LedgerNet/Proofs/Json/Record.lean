import LedgerNet.Json.Typed
import LedgerNet.Proofs.Json.Written

/-!
Typed values read back from what was written of them: numbers, texts, lists, maps, and records member by member.
Of a value that was read, what its parts are known to be is what the readings of the parts leave.
-/
namespace LedgerNet.Json

open Text

theorem bind_ok {ε α β : Type} {x : Except ε α} {f : α → Except ε β} {b : β} (h : x >>= f = .ok b) :
    ∃ a, x = .ok a ∧ f a = .ok b := by
  cases x with
  | error e => cases h
  | ok a => exact ⟨a, rfl, h⟩

theorem map_ok {ε α β : Type} {x : Except ε α} {f : α → β} {b : β} (h : x.map f = .ok b) :
    ∃ a, x = .ok a ∧ f a = b := by
  cases x with
  | error e => cases h
  | ok a => exact ⟨a, rfl, Except.ok.inj h⟩

theorem mapError_ok {ε ε' α : Type} {x : Except ε α} {f : ε → ε'} {a : α} (h : x.mapError f = .ok a) : x = .ok a := by
  cases x with
  | error e => cases h
  | ok a' => exact congrArg Except.ok (Except.ok.inj h)

theorem ok_of_toOption {ε α : Type} {x : Except ε α} {a : α} (h : x.toOption = some a) : x = .ok a := by
  cases x with
  | error e => cases h
  | ok a' => exact congrArg Except.ok (Option.some.inj h)

theorem mapM_ok {ε α β : Type} {f : α → Except ε β} {as : List α} {bs : List β} (h : as.mapM f = .ok bs) :
    ∀ b ∈ bs, ∃ a ∈ as, f a = .ok b := by
  induction as generalizing bs with
  | nil =>
    cases h
    intro b hb
    cases hb
  | cons a rest ih =>
    rw [List.mapM_cons] at h
    obtain ⟨b, hb, h⟩ := bind_ok h
    obtain ⟨more, hmore, h⟩ := bind_ok h
    cases h
    intro c hc
    rcases List.mem_cons.mp hc with rfl | hc
    · exact ⟨a, List.mem_cons_self, hb⟩
    · obtain ⟨a', ha', hread⟩ := ih hmore c hc
      exact ⟨a', List.mem_cons_of_mem _ ha', hread⟩

theorem mapM_written {ε α β : Type} {f : β → Except ε α} {write : α → β} {as : List α}
    (h : ∀ a ∈ as, f (write a) = .ok a) : (as.map write).mapM f = .ok as := by
  induction as with
  | nil => rfl
  | cons a rest ih =>
    obtain ⟨ha, hrest⟩ := List.forall_mem_cons.mp h
    rw [List.map_cons, List.mapM_cons, ha, ih hrest]
    rfl

theorem Numeral.gather_eq {n : Nat} {ds : List Nat} (h : Natural.value n ds ≤ Natural.max64) :
    gather n ds = (Natural.value n ds, ds.length) := by
  induction ds generalizing n with
  | nil => rfl
  | cons d rest ih =>
    have hle : n * 10 + d ≤ Natural.max64 := Nat.le_trans (Natural.le_value _ rest) h
    have hrest : gather (n * 10 + d) rest = (Natural.value (n * 10 + d) rest, rest.length) := ih h
    simp only [gather, hle, if_true, hrest]
    rfl

theorem Numeral.gather_digits {n : Nat} (h : n ≤ Natural.max64) :
    gather 0 (Natural.digits n) = (n, (Natural.digits n).length) := by
  rw [gather_eq (by rwa [Natural.value_digits]), Natural.value_digits]

/-- A natural number in 64 bits is read as one. -/
theorem amount_natural {n : Nat} (h : n ≤ Natural.max64) :
    (⟨false, Natural.digits n, none, none⟩ : Numeral).amount = .natural n := by
  simp [Numeral.amount, Numeral.gather_digits h]

theorem amount_negative {n : Nat} (hpos : 1 ≤ n) (h : n ≤ 0x8000000000000000) :
    (⟨true, Natural.digits n, none, none⟩ : Numeral).amount = .negative (-n) := by
  have hmax : n ≤ Natural.max64 := Nat.le_trans h (by decide)
  simp [Numeral.amount, Numeral.gather_digits hmax, hpos, h]

theorem natural_tree {limit n : Nat} (type : String) (hn : n ≤ limit) (hl : limit ≤ Natural.max64) :
    natural limit type (Value.int n).tree = .ok n := by
  have hneg : decide ((n : Int) < 0) = false := by simp
  simp only [Value.tree, natural, hneg, Int.natAbs_natCast, amount_natural (Nat.le_trans hn hl), hn, if_true]

theorem word32_tree (w : UInt32) : word32 (Value.int w.toNat).tree = .ok w.toNat :=
  natural_tree "u32" (Nat.le_of_lt_succ w.toNat_lt) (by decide)

theorem word64_tree (w : UInt64) : word64 (Value.int w.toNat).tree = .ok w.toNat :=
  natural_tree "u64" (Nat.le_of_lt_succ w.toNat_lt) (Nat.le_refl _)

theorem integer64_tree (i : Int64) : integer64 (Value.int i.toInt).tree = .ok i.toInt := by
  have hlow : -0x8000000000000000 ≤ i.toInt := i.le_toInt
  have hhigh : i.toInt < 0x8000000000000000 := i.toInt_lt
  by_cases h : i.toInt < 0
  · have habs : -(i.toInt.natAbs : Int) = i.toInt := by omega
    simp only [Value.tree, integer64, h, decide_true, amount_negative (n := i.toInt.natAbs) (by omega) (by omega), habs]
  · have habs : (i.toInt.natAbs : Int) = i.toInt := by omega
    have hmax : i.toInt.natAbs ≤ Natural.max64 := by
      have : Natural.max64 = 0xFFFFFFFFFFFFFFFF := rfl
      omega
    have hlt : i.toInt.natAbs < 0x8000000000000000 := by omega
    simp only [Value.tree, integer64, h, decide_false, amount_natural hmax, hlt, if_true, habs]

theorem string_tree (s : String) : string (Value.str s).tree = .ok s := by
  simp [string, Value.tree, spell_pieces]

/-- A text that its own form gives back is read from it. -/
theorem textual_tree {α : Type} {parse : String → Except String α} {s : String} {a : α} (h : parse s = .ok a) :
    textual parse (Value.str s).tree = .ok a := by
  simp only [textual, string_tree, bind, Except.bind, h]
  rfl

theorem optional_tree {α : Type} {read : Reading α} {t : Tree} {a : α} (ht : t ≠ .null) (h : read t = .ok a) :
    optional read t = .ok (some a) := by
  rw [optional, h]
  · rfl
  · exact ht

theorem textual_ok {α : Type} {parse : String → Except String α} {t : Tree} {a : α} (h : textual parse t = .ok a) :
    ∃ s, parse s = .ok a := by
  obtain ⟨s, -, h⟩ := bind_ok h
  refine ⟨s, ?_⟩
  split at h
  · cases h
    assumption
  · cases h

theorem optional_ofOption {α : Type} {read : Reading α} {toJson : α → Value} {o : Option α}
    (hnull : ∀ a, (toJson a).tree ≠ .null) (h : ∀ a, read (toJson a).tree = .ok a) :
    optional read (Value.ofOption toJson o).tree = .ok o := by
  cases o with
  | none => rfl
  | some a => exact optional_tree (hnull a) (h a)

theorem treeItems_eq (vs : List Value) : Value.tree.treeItems vs = vs.map (·.tree) := by
  induction vs with
  | nil => rfl
  | cons v vs ih => rw [Value.tree.treeItems, ih, List.map_cons]

theorem treeMembers_eq (ms : List (String × Value)) :
    Value.tree.treeMembers ms = ms.map fun m => (pieces m.1, m.2.tree) := by
  induction ms with
  | nil => rfl
  | cons m ms ih => rw [Value.tree.treeMembers, ih, List.map_cons]

/-- A list is read from what was written of its items, if each of them is. -/
theorem sequence_tree {α : Type} {read : Reading α} {toJson : α → Value} {as : List α}
    (h : ∀ a ∈ as, read (toJson a).tree = .ok a) : sequence read (Value.arr (as.map toJson)).tree = .ok as := by
  rw [Value.tree, treeItems_eq, List.map_map, sequence, mapM_written]
  · rfl
  · exact h

theorem sequence_ok {α : Type} {read : Reading α} {t : Tree} {as : List α} (h : sequence read t = .ok as) :
    ∀ a ∈ as, ∃ t', read t' = .ok a := by
  unfold sequence at h
  split at h
  · obtain ⟨values, hread, h⟩ := bind_ok h
    split at h
    · cases h
      intro a ha
      obtain ⟨t', -, ht⟩ := mapM_ok hread a ha
      exact ⟨t', ht⟩
    · cases h
  · obtain ⟨_, -, h⟩ := bind_ok h
    cases h

/-- A map is read from what was written of its entries, if each key and each value is. -/
theorem entries_tree {κ α : Type} {key : String → Except String κ} {read : Reading α} {name : κ → String}
    {toJson : α → Value} {pairs : List (κ × α)} (hkey : ∀ p ∈ pairs, key (name p.1) = .ok p.1)
    (hread : ∀ p ∈ pairs, read (toJson p.2).tree = .ok p.2) :
    entries key read (Value.obj (pairs.map fun p => (name p.1, toJson p.2))).tree = .ok pairs := by
  rw [Value.tree, treeMembers_eq, List.map_map, entries, mapM_written]
  · rfl
  · intro p hp
    have htext : textual key (.string (pieces (name p.1))) = .ok p.1 := textual_tree (hkey p hp)
    simp only [Function.comp_apply, htext, hread p hp]
    rfl

theorem entries_ok {κ α : Type} {key : String → Except String κ} {read : Reading α} {t : Tree} {pairs : List (κ × α)}
    (h : entries key read t = .ok pairs) : ∀ p ∈ pairs, ∃ s, key s = .ok p.1 := by
  unfold entries at h
  split at h
  · obtain ⟨values, hread, h⟩ := bind_ok h
    split at h
    · cases h
      intro p hp
      obtain ⟨member, -, hmember⟩ := mapM_ok hread p hp
      obtain ⟨k, hk, hmember⟩ := bind_ok hmember
      obtain ⟨a, -, hmember⟩ := bind_ok hmember
      cases hmember
      exact textual_ok hk
    · cases h
  · cases h
  · obtain ⟨_, -, h⟩ := bind_ok h
    cases h

/-- A text in which a value was written is read as the value's tree is. -/
theorem readSymbols_compact {α : Type} (read : Reading α) (v : Value) :
    readSymbols read (Symbol.ofString v.compact) = read v.tree := by
  simp only [readSymbols, Document.read_compact, if_true]
  cases read v.tree <;> rfl

theorem readSymbols_pretty {α : Type} (read : Reading α) (v : Value) :
    readSymbols read (Symbol.ofString v.pretty) = read v.tree := by
  simp only [readSymbols, Document.read_pretty, if_true]
  cases read v.tree <;> rfl

theorem readSymbols_ok {α : Type} {read : Reading α} {symbols : List Symbol} {a : α}
    (h : readSymbols read symbols = .ok a) : ∃ t, read t = .ok a := by
  obtain ⟨b, hread, h⟩ := bind_ok h
  split at h
  · cases h
    exact ⟨_, hread⟩
  · cases h

namespace Field

variable {α β : Type} {name : String} {read : Reading β} {set : β → α → α}

theorem read_required {t : Tree} {v : β} {a : α} (h : read t = .ok v) :
    (required name read set).read t a = .ok (set v a) := by
  simp [required, h, Except.map]

theorem read_defaulted {t : Tree} {v : β} {a : α} (h : read t = .ok v) :
    (defaulted name read set).read t a = .ok (set v a) := by
  simp [defaulted, h, Except.map]

/-- What holds of a record still holds when the field has been read into it. -/
def Keeps (P : α → Prop) (field : Field α) : Prop := ∀ t a b, field.read t a = .ok b → P a → P b

theorem keeps_required {P : α → Prop} (h : ∀ t v, read t = .ok v → ∀ a, P a → P (set v a)) :
    (required name read set).Keeps P := by
  intro t a b hread ha
  obtain ⟨v, hv, rfl⟩ := map_ok hread
  exact h t v hv a ha

theorem keeps_defaulted {P : α → Prop} (h : ∀ t v, read t = .ok v → ∀ a, P a → P (set v a)) :
    (defaulted name read set).Keeps P := by
  intro t a b hread ha
  obtain ⟨v, hv, rfl⟩ := map_ok hread
  exact h t v hv a ha

end Field

namespace Layout

variable {α : Type}

/-- A member whose field has not been met yet is read into the record. -/
theorem members_field {fields : List (Field α)} {seen : List String} {record record' : α} {name : String} {t : Tree}
    {field : Field α} (hf : fields.find? (·.name == name) = some field) (hs : seen.contains field.name = false)
    (hr : field.read t record = .ok record') (rest : List (List Piece × Tree)) :
    members fields seen record ((pieces name, t) :: rest) = members fields (field.name :: seen) record' rest := by
  have hm : member fields seen record (pieces name) t = .ok (field.name :: seen, record') := by
    simp only [member, spell_pieces, String.ofList_toList, hf, hs, hr]
    rfl
  simp only [members, hm]
  rfl

theorem read_object {layout : Layout α} {pairs : List (List Piece × Tree)} (seen : List String) {record : α}
    (h : members layout.fields [] layout.blank pairs = .ok (seen, record))
    (hm : missing? layout.fields seen = none) : layout.read (.object pairs true) = .ok record := by
  simp only [read, h, bind, Except.bind, hm]
  rfl

/-- The members that are written of a record: they stand in the order of the fields, each is read into the record as the
members before it left it, and only optional fields are left out. -/
inductive Fills : List (Field α) → List (String × Value) → α → α → Prop where
  | done {a c : α} : a = c → Fills [] [] a c
  | member {field : Field α} {fields : List (Field α)} {v : Value} {members : List (String × Value)} {a b c : α} :
    field.read v.tree a = .ok b → Fills fields members b c →
      Fills (field :: fields) ((field.name, v) :: members) a c
  | leftOut {field : Field α} {fields : List (Field α)} {members : List (String × Value)} {a c : α} :
    field.optional = true → Fills fields members a c → Fills (field :: fields) members a c

/-- Fields of different names are found by them. -/
theorem find_field {fields : List (Field α)} (hnames : (fields.map (·.name)).Nodup) {field : Field α}
    (hf : field ∈ fields) : fields.find? (·.name == field.name) = some field := by
  induction fields with
  | nil => cases hf
  | cons first rest ih =>
    rw [List.map_cons, List.nodup_cons] at hnames
    rcases List.mem_cons.mp hf with rfl | hf
    · simp
    · have hne : first.name ≠ field.name := fun heq => hnames.1 (heq ▸ List.mem_map_of_mem hf)
      rw [List.find?_cons_of_neg (by simpa using hne)]
      exact ih hnames.2 hf

/-- Members that fill fields not met yet are all read into the record. -/
theorem members_fills {all fields : List (Field α)} {written : List (String × Value)} {a c : α}
    (hall : (all.map (·.name)).Nodup) (h : Fills fields written a c) (hin : ∀ field ∈ fields, field ∈ all)
    (hnames : (fields.map (·.name)).Nodup) {seen : List String} (hfresh : ∀ field ∈ fields, field.name ∉ seen) :
    ∃ met, members all seen a (Value.tree.treeMembers written) = .ok (met, c) ∧ (∀ name ∈ seen, name ∈ met) ∧
      ∀ field ∈ fields, field.optional = true ∨ field.name ∈ met := by
  induction h generalizing seen with
  | done heq =>
    subst heq
    exact ⟨seen, rfl, fun _ h => h, fun _ h => nomatch h⟩
  | @member field fields _ _ _ _ _ hread hrest ih =>
    obtain ⟨hfield, hin⟩ := List.forall_mem_cons.mp hin
    obtain ⟨hnew, hfresh⟩ := List.forall_mem_cons.mp hfresh
    rw [List.map_cons, List.nodup_cons] at hnames
    have hothers : ∀ other ∈ fields, other.name ∉ field.name :: seen := by
      intro other ho hmem
      rcases List.mem_cons.mp hmem with heq | hmem
      · exact hnames.1 (heq ▸ List.mem_map_of_mem ho)
      · exact hfresh other ho hmem
    obtain ⟨met, hmembers, hkept, hmet⟩ := ih hin hnames.2 hothers
    refine ⟨met, ?_, fun name h => hkept name (List.mem_cons_of_mem _ h), ?_⟩
    · exact (members_field (find_field hall hfield) (by simpa using hnew) hread _).trans hmembers
    · exact List.forall_mem_cons.mpr ⟨.inr (hkept _ List.mem_cons_self), hmet⟩
  | leftOut hoptional hrest ih =>
    rw [List.map_cons, List.nodup_cons] at hnames
    obtain ⟨met, hmembers, hkept, hmet⟩ :=
      ih (List.forall_mem_cons.mp hin).2 hnames.2 (List.forall_mem_cons.mp hfresh).2
    exact ⟨met, hmembers, hkept, List.forall_mem_cons.mpr ⟨.inl hoptional, hmet⟩⟩

/-- A record is read from the members that were written of it. -/
theorem read_fills {layout : Layout α} {written : List (String × Value)} {a : α}
    (hnames : (layout.fields.map (·.name)).Nodup) (h : Fills layout.fields written layout.blank a) :
    layout.read (Value.obj written).tree = .ok a := by
  have hfresh : ∀ field ∈ layout.fields, field.name ∉ ([] : List String) := fun _ _ => List.not_mem_nil
  obtain ⟨met, hmembers, -, hmet⟩ := members_fills hnames h (fun _ h => h) hnames hfresh
  refine read_object met hmembers (List.find?_eq_none.mpr ?_)
  intro field hfield
  rcases hmet field hfield with h | h <;> simp [h]

theorem members_keeps {P : α → Prop} {fields : List (Field α)} (h : ∀ field ∈ fields, field.Keeps P)
    {pairs : List (List Piece × Tree)} {seen met : List String} {a b : α}
    (hread : members fields seen a pairs = .ok (met, b)) (ha : P a) : P b := by
  induction pairs generalizing seen a with
  | nil =>
    cases hread
    exact ha
  | cons pair rest ih =>
    obtain ⟨⟨seen', a'⟩, hmember, hread⟩ := bind_ok hread
    refine ih hread ?_
    unfold member at hmember
    split at hmember
    · cases hmember
    · split at hmember
      · split at hmember
        · cases hmember
          exact ha
        · cases hmember
      · rename_i field hfind
        split at hmember
        · cases hmember
        · obtain ⟨a'', hfield, hmember⟩ := bind_ok hmember
          cases hmember
          exact h field (List.mem_of_find?_eq_some hfind) _ _ _ hfield ha

theorem items_keeps {P : α → Prop} {shape : String} {closed : Bool} {fields : List (Field α)}
    (h : ∀ field ∈ fields, field.Keeps P) {place : Nat} {trees : List Tree} {a b : α}
    (hread : items shape closed place a fields trees = .ok b) (ha : P a) : P b := by
  induction fields generalizing place trees a with
  | nil =>
    cases trees with
    | nil =>
      simp only [items] at hread
      split at hread
      · cases hread
        exact ha
      · cases hread
    | cons t ts => cases hread
  | cons field fields ih =>
    obtain ⟨hfield, hrest⟩ := List.forall_mem_cons.mp h
    cases trees with
    | nil =>
      simp only [items] at hread
      split at hread
      · cases hread
      · split at hread
        · exact ih hrest hread ha
        · cases hread
    | cons t ts =>
      obtain ⟨a', hread', hread⟩ := bind_ok hread
      exact ih hrest hread (hfield t a a' hread' ha)

/-- What holds of the blank record and is kept by every field holds of every record that is read, be it written as an
object or as an array. -/
theorem read_keeps {P : α → Prop} {layout : Layout α} (hblank : P layout.blank)
    (h : ∀ field ∈ layout.fields, field.Keeps P) {t : Tree} {a : α} (hread : layout.read t = .ok a) : P a := by
  unfold read at hread
  split at hread
  · obtain ⟨⟨seen, b⟩, hmembers, hread⟩ := bind_ok hread
    have hb : P b := members_keeps h hmembers hblank
    dsimp only at hread
    split at hread
    · obtain ⟨_, hthrow, -⟩ := bind_ok hread
      cases hthrow
    · split at hread
      · cases hread
      · cases hread
        exact hb
  · exact items_keeps h hread hblank
  · cases hread
  · obtain ⟨_, -, hread⟩ := bind_ok hread
    cases hread

end Layout

end LedgerNet.Json
