import LedgerNet.Json.Tree
import LedgerNet.Json.Value
import LedgerNet.Proofs.Text.Decimal

/-!
What is read of a value that was written, be it without blanks or with its items and members on lines of their own:
the tree of the value, whole and with nothing behind it.
-/
namespace LedgerNet.Json

open Text

/-- How a character of a written text is read: as itself, or by its number if it was written so. -/
def piece (c : Char) : Piece :=
  if c.toNat < 0x20 ∧ c ∉ ['\x08', '\x0c', '\n', '\r', '\t'] then .unit c.toNat else .char c

/-- How a written text is read. -/
def pieces (s : String) : List Piece := s.toList.map piece

namespace Value

/-- The tree that a written value is read as. -/
def tree : Value → Tree
  | .null => .null
  | .bool b => .bool b
  | .int n => .number ⟨n < 0, Natural.digits n.natAbs, none, none⟩
  | .str s => .string (pieces s)
  | .arr items => .array (treeItems items) true
  | .obj members => .object (treeMembers members) true
where
  treeItems : List Value → List Tree
    | [] => []
    | v :: vs => v.tree :: treeItems vs
  treeMembers : List (String × Value) → List (List Piece × Tree)
    | [] => []
    | (k, v) :: ms => (pieces k, v.tree) :: treeMembers ms

end Value

theorem spell_unit {n : Nat} (h : n < 0xD800) (rest : List Piece) :
    spell (.unit n :: rest) = (spell rest).map (Char.ofNat n :: ·) := by
  rw [spell.eq_def]
  simp [h]

/-- A written text spells itself. -/
theorem spell_pieces (s : String) : spell (pieces s) = some s.toList := by
  have hcs (cs : List Char) : spell (cs.map piece) = some cs := by
    induction cs with
    | nil => rfl
    | cons c rest ih =>
      rw [List.map_cons, piece]
      split
      · rename_i hc
        rw [spell_unit (by omega), ih, Option.map_some, Char.ofNat_toNat]
      · rw [spell, ih, Option.map_some]
  exact hcs s.toList

theorem hexValue_hexChar {n : Nat} (h : n < 16) : hexValue? (.char (hexChar n)) = some n := by
  have hall : ∀ n < 16, hexValue? (.char (hexChar n)) = some n := by decide
  exact hall n h

/-- A character is read back from its escape. -/
theorem readString_escape (c : Char) (s : List Symbol) :
    readString ((escape c).map .char ++ s) = (readString s).map fun (ps, rest) => (piece c :: ps, rest) := by
  unfold escape
  split
  case h_8 hquote hback hb hf hn hr ht =>
    split
    · rename_i hc
      have hunit : hexUnit? (.char '0') (.char '0') (.char (hexChar (c.toNat / 16)))
          (.char (hexChar (c.toNat % 16))) = some c.toNat := by
        have hzero : hexValue? (.char '0') = some 0 := rfl
        simp only [hexUnit?, hzero, hexValue_hexChar (n := c.toNat / 16) (by omega),
          hexValue_hexChar (n := c.toNat % 16) (by omega), Option.bind_eq_bind, Option.bind_some]
        exact congrArg some (by omega)
      have hp : piece c = .unit c.toNat := by
        simp only [piece, hc, List.mem_cons, List.not_mem_nil, or_false, not_or, true_and]
        exact if_pos ⟨hb, hf, hn, hr, ht⟩
      simp only [List.map_cons, List.map_nil, List.cons_append, List.nil_append, readString, hunit, hp]
    · rename_i hc
      have hp : piece c = .char c := by simp [piece, hc]
      rw [List.map_cons, List.map_nil, List.cons_append, List.nil_append, readString, hp]
      · have hplain : c ≠ '\\' := hback
        simp [hplain, hc]
      · exact hquote
      · exact fun _ _ _ _ _ _ => hback
      · exact fun _ _ _ => hback
  all_goals rfl

/-- A text is read back from between its quotes. -/
theorem readString_quoted (s : String) (rest : List Symbol) :
    readString ((s.toList.flatMap escape ++ ['"']).map .char ++ rest) = some (pieces s, rest) := by
  have hcs (cs : List Char) :
      readString ((cs.flatMap escape ++ ['"']).map .char ++ rest) = some (cs.map piece, rest) := by
    induction cs with
    | nil => rfl
    | cons c more ih =>
      rw [List.flatMap_cons, List.append_assoc, List.map_append, List.append_assoc, readString_escape, ih]
      rfl
  exact hcs s.toList

/-- What may stand between the parts of a document. -/
def blanks : List Char := [' ', '\n', '\t', '\r']

/-- Where a written value may end: at the end of the text, or before what may stand behind it in an array or an
object. -/
def EndsValue (rest : List Symbol) : Prop :=
  rest = [] ∨ ∃ c ∈ ',' :: ']' :: '\x7d' :: blanks, ∃ more, rest = .char c :: more

theorem endsValue_cons {c : Char} (h : c ∈ ',' :: ']' :: '\x7d' :: blanks) (rest : List Symbol) :
    EndsValue (.char c :: rest) :=
  .inr ⟨c, h, rest, rfl⟩

/-- A number ends where a value may. -/
theorem EndsValue.numeral {rest : List Symbol} (h : EndsValue rest) (negative : Bool) (whole : List Nat) :
    takeDigits rest = ([], rest) ∧ readTail negative whole rest = some (⟨negative, whole, none, none⟩, rest) := by
  rcases h with rfl | ⟨c, hc, more, rfl⟩
  · exact ⟨rfl, rfl⟩
  · simp only [blanks, List.mem_cons, List.not_mem_nil, or_false] at hc
    rcases hc with rfl | rfl | rfl | rfl | rfl | rfl | rfl <;> exact ⟨rfl, rfl⟩

theorem takeDigits_digits {cs : List Char} (h : ∀ c ∈ cs, '0' ≤ c ∧ c ≤ '9') {rest : List Symbol}
    (hr : EndsValue rest) : takeDigits (cs.map .char ++ rest) = (cs.map (·.toNat - 48), rest) := by
  induction cs with
  | nil => exact (hr.numeral false []).1
  | cons c more ih =>
    have hc := h c List.mem_cons_self
    simp [takeDigits, hc, ih fun c hc => h c (List.mem_cons_of_mem _ hc)]

theorem readNumeral_digits (negative : Bool) (n : Nat) {rest : List Symbol} (hr : EndsValue rest) :
    readNumeral negative ((Nat.toDigits 10 n).map .char ++ rest) =
      some (⟨negative, Natural.digits n, none, none⟩, rest) := by
  have htake : takeDigits ((Nat.toDigits 10 n).map .char ++ rest) = (Natural.digits n, rest) :=
    takeDigits_digits (fun c hc => Natural.digit_of_mem hc) hr
  rw [readNumeral, htake]
  split
  · rename_i heq
    exact absurd (congrArg Prod.fst heq) (Natural.digits_ne_nil n)
  · rename_i d more _ heq
    have hd : Natural.digits n = 0 :: d :: more := congrArg Prod.fst heq
    have hz := Natural.eq_zero_of_head hd
    subst hz
    cases hd
  · rename_i heq
    cases heq
    exact (hr.numeral negative _).2

theorem toDigits_cons (n : Nat) : ∃ c more, Nat.toDigits 10 n = c :: more ∧ '0' ≤ c ∧ c ≤ '9' := by
  cases h : Nat.toDigits 10 n with
  | nil => exact absurd h Nat.toDigits_ne_nil
  | cons c more =>
    have hmem : c ∈ Nat.toDigits 10 n := by
      rw [h]
      exact List.mem_cons_self
    exact ⟨c, more, rfl, Natural.digit_of_mem hmem⟩

theorem mem_decimals {c : Char} (h : '0' ≤ c ∧ c ≤ '9') :
    c ∈ ['0', '1', '2', '3', '4', '5', '6', '7', '8', '9'] := by
  have hlow : 48 ≤ c.toNat := h.1
  have hhigh : c.toNat ≤ 57 := h.2
  have hc : c = Char.ofNat c.toNat := (Char.ofNat_toNat c).symm
  have hall : ∀ n, 48 ≤ n → n ≤ 57 → Char.ofNat n ∈ ['0', '1', '2', '3', '4', '5', '6', '7', '8', '9'] := by
    intro n hl hu
    interval_cases n <;> decide
  rw [hc]
  exact hall _ hlow hhigh

/-- A whole number is written as its sign and its digits. -/
theorem toList_int (n : Int) :
    (toString n).toList = (if n < 0 then ['-'] else []) ++ Nat.toDigits 10 n.natAbs := by
  rw [Int.toString_eq_repr, Int.repr_eq_if]
  by_cases h : n < 0
  · have hn : ¬ 0 ≤ n := by omega
    have ha : (-n).toNat = n.natAbs := by omega
    simp [h, hn, ha, Nat.toList_repr]
  · have hn : 0 ≤ n := by omega
    have ha : n.toNat = n.natAbs := by omega
    simp [h, hn, ha, Nat.toList_repr]

/-- Where a written value has blanks: before each item or member and before the bracket that closes, by their depth,
and behind a colon. -/
structure Spacing where
  line : Nat → List Char
  gap : List Char

structure Spacing.Blank (s : Spacing) : Prop where
  line : ∀ level, ∀ c ∈ s.line level, c ∈ blanks
  gap : ∀ c ∈ s.gap, c ∈ blanks

namespace Value

/-- A value as it is written with some spacing, at some depth. -/
def spaced (s : Spacing) (level : Nat) : Value → List Char
  | .null => ['n', 'u', 'l', 'l']
  | .bool true => ['t', 'r', 'u', 'e']
  | .bool false => ['f', 'a', 'l', 's', 'e']
  | .int n => (toString n).toList
  | .str text => quote text
  | .arr [] => ['[', ']']
  | .arr (v :: vs) => '[' :: s.line (level + 1) ++ v.spaced s (level + 1) ++ spacedItems s level vs
  | .obj [] => ['\x7b', '\x7d']
  | .obj ((k, v) :: ms) =>
    '\x7b' :: s.line (level + 1) ++ quote k ++ ':' :: s.gap ++ v.spaced s (level + 1) ++ spacedMembers s level ms
where
  spacedItems (s : Spacing) (level : Nat) : List Value → List Char
    | [] => s.line level ++ [']']
    | v :: vs => ',' :: s.line (level + 1) ++ v.spaced s (level + 1) ++ spacedItems s level vs
  spacedMembers (s : Spacing) (level : Nat) : List (String × Value) → List Char
    | [] => s.line level ++ ['\x7d']
    | (k, v) :: ms =>
      ',' :: s.line (level + 1) ++ quote k ++ ':' :: s.gap ++ v.spaced s (level + 1) ++ spacedMembers s level ms

/-- A written value begins with what is neither blank nor a bracket that closes. -/
theorem spaced_head (s : Spacing) (level : Nat) (v : Value) :
    ∃ c more, v.spaced s level = c :: more ∧ c ∉ ']' :: '\x7d' :: blanks := by
  cases v with
  | null => exact ⟨_, _, rfl, by decide⟩
  | bool b => cases b <;> exact ⟨_, _, rfl, by decide⟩
  | int n =>
    obtain ⟨c, more, hd, hc⟩ := toDigits_cons n.natAbs
    rw [spaced, toList_int, hd]
    split
    · exact ⟨_, _, rfl, by decide⟩
    · refine ⟨c, more, rfl, ?_⟩
      have hten := mem_decimals hc
      simp only [List.mem_cons, List.not_mem_nil, or_false] at hten
      rcases hten with rfl | rfl | rfl | rfl | rfl | rfl | rfl | rfl | rfl | rfl <;> decide
  | str text => exact ⟨_, _, rfl, by decide⟩
  | arr items =>
    cases items with
    | nil => exact ⟨_, _, by rw [spaced], by decide⟩
    | cons v vs => exact ⟨_, _, by rw [spaced]; rfl, by decide⟩
  | obj members =>
    cases members with
    | nil => exact ⟨_, _, by rw [spaced], by decide⟩
    | cons m ms => exact ⟨_, _, by rw [spaced]; rfl, by decide⟩

theorem spaced_length (s : Spacing) (level : Nat) (v : Value) : 1 ≤ (v.spaced s level).length := by
  obtain ⟨c, more, hv, -⟩ := v.spaced_head s level
  simp [hv]

end Value

theorem skipBlank_blank {bs : List Char} (h : ∀ c ∈ bs, c ∈ blanks) (rest : List Symbol) :
    skipBlank (bs.map .char ++ rest) = skipBlank rest := by
  induction bs with
  | nil => rfl
  | cons c more ih =>
    have hc := h c List.mem_cons_self
    simp only [blanks, List.mem_cons, List.not_mem_nil, or_false] at hc
    simp only [List.map_cons, List.cons_append, skipBlank, hc, if_true]
    exact ih fun c hc => h c (List.mem_cons_of_mem _ hc)

theorem skipBlank_char {c : Char} (h : c ∉ blanks) (rest : List Symbol) :
    skipBlank (.char c :: rest) = .char c :: rest := by
  simp only [blanks, List.mem_cons, List.not_mem_nil, or_false] at h
  simp [skipBlank, h]

/-- Blanks before a value are skipped. -/
theorem readValue_blank {bs : List Char} (h : ∀ c ∈ bs, c ∈ blanks) (fuel : Nat) (rest : List Symbol) :
    readValue fuel (bs.map .char ++ rest) = readValue fuel rest := by
  cases fuel with
  | zero => rfl
  | succ fuel => simp only [readValue, skipBlank_blank h]

theorem readItems_blank {bs : List Char} (h : ∀ c ∈ bs, c ∈ blanks) (fuel : Nat) (rest : List Symbol) :
    readItems fuel (bs.map .char ++ rest) = readItems fuel rest := by
  cases fuel with
  | zero => rfl
  | succ fuel => simp only [readItems, readValue_blank h]

section
variable {s : Spacing}

/-- What is read of values written with some spacing and with some fuel, when that is enough for their length. -/
structure ReadsBack (s : Spacing) (fuel : Nat) : Prop where
  value : ∀ (v : Value) (level : Nat) (rest : List Symbol), (v.spaced s level).length ≤ fuel → EndsValue rest →
    readValue fuel ((v.spaced s level).map .char ++ rest) = (v.tree, some rest)
  items : ∀ (v : Value) (vs : List Value) (level : Nat) (rest : List Symbol),
    (v.spaced s (level + 1) ++ Value.spaced.spacedItems s level vs).length ≤ fuel →
      readItems fuel ((v.spaced s (level + 1) ++ Value.spaced.spacedItems s level vs).map .char ++ rest) =
        (v.tree :: Value.tree.treeItems vs, some rest)
  members : ∀ (k : String) (v : Value) (ms : List (String × Value)) (level : Nat) (rest : List Symbol),
    (v.spaced s (level + 1) ++ Value.spaced.spacedMembers s level ms).length ≤ fuel →
      readMembers fuel (((k.toList.flatMap escape ++ ['"']) ++ ':' :: s.gap ++ v.spaced s (level + 1) ++
          Value.spaced.spacedMembers s level ms).map .char ++ rest) =
        ((pieces k, v.tree) :: Value.tree.treeMembers ms, some rest)

theorem readsBack_zero : ReadsBack s 0 := by
  have hlong (v : Value) (level : Nat) (more : List Char) (h : (v.spaced s level ++ more).length ≤ 0) : False := by
    have hv := v.spaced_length s level
    rw [List.length_append] at h
    omega
  refine ⟨?_, ?_, ?_⟩
  · intro v level rest h
    exact (hlong v level [] (by simpa using h)).elim
  · intro v vs level rest h
    exact (hlong v _ _ h).elim
  · intro k v ms level rest h
    exact (hlong v _ _ h).elim

theorem readValue_int (level fuel : Nat) (n : Int) {rest : List Symbol} (hr : EndsValue rest) :
    readValue (fuel + 1) (((Value.int n).spaced s level).map .char ++ rest) = ((Value.int n).tree, some rest) := by
  rw [Value.spaced, toList_int]
  by_cases h : n < 0
  · simp only [h, if_true, List.map_cons, List.cons_append, List.nil_append]
    have hread : readValue (fuel + 1) (.char '-' :: ((Nat.toDigits 10 n.natAbs).map .char ++ rest)) =
        readValue.ofNumeral (readNumeral true ((Nat.toDigits 10 n.natAbs).map .char ++ rest)) := rfl
    rw [hread, readNumeral_digits true _ hr]
    simp [readValue.ofNumeral, Value.tree, h]
  · simp only [h, if_false, List.nil_append]
    obtain ⟨c, more, hd, hc⟩ := toDigits_cons n.natAbs
    have hread : readValue (fuel + 1) ((Nat.toDigits 10 n.natAbs).map .char ++ rest) =
        readValue.ofNumeral (readNumeral false ((Nat.toDigits 10 n.natAbs).map .char ++ rest)) := by
      rw [hd]
      have hten := mem_decimals hc
      simp only [List.mem_cons, List.not_mem_nil, or_false] at hten
      rcases hten with rfl | rfl | rfl | rfl | rfl | rfl | rfl | rfl | rfl | rfl <;> rfl
    rw [hread, readNumeral_digits false _ hr]
    simp [readValue.ofNumeral, Value.tree, h]

theorem readValue_arr (hs : s.Blank) {fuel : Nat} (h : ReadsBack s fuel) (items : List Value) (level : Nat)
    (rest : List Symbol) (hl : ((Value.arr items).spaced s level).length ≤ fuel + 1) :
    readValue (fuel + 1) (((Value.arr items).spaced s level).map .char ++ rest) =
      ((Value.arr items).tree, some rest) := by
  cases items with
  | nil => rfl
  | cons v vs =>
    have hi := h.items v vs level rest (by
      simp only [Value.spaced, List.cons_append, List.length_cons, List.length_append] at hl ⊢
      omega)
    obtain ⟨c, more, hv, hc⟩ := v.spaced_head s (level + 1)
    simp only [List.mem_cons, not_or] at hc
    rw [hv] at hi
    simp only [Value.spaced, hv, List.cons_append, List.append_assoc, List.map_cons, List.map_append] at hi ⊢
    simp only [readValue, skipBlank_char (c := '[') (by decide), skipBlank_blank (hs.line _), skipBlank_char hc.2.2]
    split
    · rename_i heq
      cases heq
      exact absurd rfl hc.1
    · rw [hi]
      rfl

theorem readValue_obj (hs : s.Blank) {fuel : Nat} (h : ReadsBack s fuel) (members : List (String × Value)) (level : Nat)
    (rest : List Symbol) (hl : ((Value.obj members).spaced s level).length ≤ fuel + 1) :
    readValue (fuel + 1) (((Value.obj members).spaced s level).map .char ++ rest) =
      ((Value.obj members).tree, some rest) := by
  cases members with
  | nil => rfl
  | cons m ms =>
    obtain ⟨k, v⟩ := m
    have hm := h.members k v ms level rest (by
      simp only [Value.spaced, quote, List.cons_append, List.length_cons, List.length_append] at hl ⊢
      omega)
    simp only [List.cons_append, List.append_assoc, List.map_cons, List.map_append] at hm
    simp only [Value.spaced, quote, List.cons_append, List.append_assoc, List.map_cons, List.map_append, readValue,
      skipBlank_char (c := '\x7b') (by decide), skipBlank_blank (hs.line _), skipBlank_char (c := '"') (by decide), hm]
    rfl

/-- A value may end before the bracket that closes. -/
theorem endsValue_close (hs : s.Blank) (level : Nat) {c : Char} (hc : c ∈ [']', '\x7d']) (rest : List Symbol) :
    EndsValue ((s.line level ++ [c]).map .char ++ rest) := by
  cases hline : s.line level with
  | nil =>
    simp only [List.mem_cons, List.not_mem_nil, or_false] at hc
    exact endsValue_cons (by rcases hc with rfl | rfl <;> decide) rest
  | cons d more =>
    have hd := hs.line level d (by rw [hline]; exact List.mem_cons_self)
    exact endsValue_cons (by simp [hd]) _

theorem endsValue_items (hs : s.Blank) (level : Nat) (vs : List Value) (rest : List Symbol) :
    EndsValue ((Value.spaced.spacedItems s level vs).map .char ++ rest) := by
  cases vs with
  | nil => exact endsValue_close hs level (by decide) rest
  | cons v vs => exact endsValue_cons (by decide) _

theorem endsValue_members (hs : s.Blank) (level : Nat) (ms : List (String × Value)) (rest : List Symbol) :
    EndsValue ((Value.spaced.spacedMembers s level ms).map .char ++ rest) := by
  cases ms with
  | nil => exact endsValue_close hs level (by decide) rest
  | cons m ms => exact endsValue_cons (by decide) _

theorem readItems_written (hs : s.Blank) {fuel : Nat} (h : ReadsBack s fuel) (v : Value) (vs : List Value) (level : Nat)
    (rest : List Symbol) (hl : (v.spaced s (level + 1) ++ Value.spaced.spacedItems s level vs).length ≤ fuel + 1) :
    readItems (fuel + 1) ((v.spaced s (level + 1) ++ Value.spaced.spacedItems s level vs).map .char ++ rest) =
      (v.tree :: Value.tree.treeItems vs, some rest) := by
  have hv := h.value v (level + 1) ((Value.spaced.spacedItems s level vs).map .char ++ rest) (by
    cases vs <;> simp only [Value.spaced.spacedItems, List.length_append, List.length_cons, List.cons_append] at hl <;>
      omega)
    (endsValue_items hs level vs rest)
  rw [List.map_append, List.append_assoc, readItems, hv]
  cases vs with
  | nil =>
    simp only [Value.spaced.spacedItems, List.map_append, List.append_assoc, skipBlank_blank (hs.line level)]
    rfl
  | cons w ws =>
    have hi := h.items w ws level rest (by
      have hlong := v.spaced_length s (level + 1)
      simp only [Value.spaced.spacedItems, List.length_append, List.length_cons, List.cons_append] at hl ⊢
      omega)
    simp only [List.map_append, List.append_assoc] at hi
    simp only [Value.spaced.spacedItems, List.cons_append, List.append_assoc, List.map_cons, List.map_append,
      skipBlank_char (c := ',') (by decide), readItems_blank (hs.line _), hi, Value.tree.treeItems]

theorem readMembers_written (hs : s.Blank) {fuel : Nat} (h : ReadsBack s fuel) (k : String) (v : Value)
    (ms : List (String × Value)) (level : Nat) (rest : List Symbol)
    (hl : (v.spaced s (level + 1) ++ Value.spaced.spacedMembers s level ms).length ≤ fuel + 1) :
    readMembers (fuel + 1) (((k.toList.flatMap escape ++ ['"']) ++ ':' :: s.gap ++ v.spaced s (level + 1) ++
        Value.spaced.spacedMembers s level ms).map .char ++ rest) =
      ((pieces k, v.tree) :: Value.tree.treeMembers ms, some rest) := by
  have hv := h.value v (level + 1) ((Value.spaced.spacedMembers s level ms).map .char ++ rest) (by
    cases ms <;>
      simp only [Value.spaced.spacedMembers, List.length_append, List.length_cons, List.cons_append] at hl <;> omega)
    (endsValue_members hs level ms rest)
  rw [List.append_assoc, List.append_assoc, List.map_append, List.append_assoc, readMembers, readString_quoted]
  simp only [List.cons_append, List.map_cons, List.map_append, List.append_assoc,
    skipBlank_char (c := ':') (by decide), readValue_blank hs.gap, hv]
  cases ms with
  | nil =>
    simp only [Value.spaced.spacedMembers, List.map_append, List.append_assoc, skipBlank_blank (hs.line level)]
    rfl
  | cons m ms =>
    obtain ⟨k', w⟩ := m
    have hm := h.members k' w ms level rest (by
      have hlong := v.spaced_length s (level + 1)
      simp only [Value.spaced.spacedMembers, quote, List.length_append, List.length_cons, List.cons_append] at hl ⊢
      omega)
    simp only [List.cons_append, List.append_assoc, List.map_cons, List.map_append] at hm
    simp only [Value.spaced.spacedMembers, quote, List.cons_append, List.append_assoc, List.map_cons, List.map_append,
      skipBlank_char (c := ',') (by decide), skipBlank_blank (hs.line _), skipBlank_char (c := '"') (by decide), hm,
      Value.tree.treeMembers]

theorem readsBack (hs : s.Blank) (fuel : Nat) : ReadsBack s fuel := by
  induction fuel with
  | zero => exact readsBack_zero
  | succ fuel ih =>
    refine ⟨?_, readItems_written hs ih, readMembers_written hs ih⟩
    intro v level rest hl hr
    cases v with
    | null => rfl
    | bool b => cases b <;> rfl
    | int n => exact readValue_int level fuel n hr
    | str text =>
      rw [Value.spaced, quote, List.cons_append, List.map_cons, List.cons_append, readValue]
      simp only [skipBlank_char (c := '"') (by decide), readString_quoted]
      rfl
    | arr items => exact readValue_arr hs ih items level rest hl
    | obj members => exact readValue_obj hs ih members level rest hl

/-- A value that was written with spacing is read as its tree, with nothing behind it. -/
theorem Document.read_spaced (hs : s.Blank) (v : Value) :
    Document.read (Symbol.ofString (String.ofList (v.spaced s 0))) = ⟨v.tree, true⟩ := by
  have hsymbols : Symbol.ofString (String.ofList (v.spaced s 0)) = (v.spaced s 0).map .char := by
    simp [Symbol.ofString]
  have hv := (readsBack hs ((v.spaced s 0).length + 1)).value v 0 [] (Nat.le_succ _) (.inl rfl)
  rw [List.append_nil] at hv
  simp only [Document.read, hsymbols, List.length_map, hv]
  rfl

end

def Spacing.none : Spacing := ⟨fun _ => [], []⟩

def Spacing.lines : Spacing := ⟨Value.indent, [' ']⟩

theorem Spacing.none_blank : none.Blank := by
  constructor <;> simp [none]

theorem Spacing.lines_blank : lines.Blank := by
  constructor <;> simp [lines, Value.indent, blanks]

namespace Value

mutual

theorem chars_eq (level : Nat) : ∀ v : Value, v.chars = v.spaced .none level
  | .null | .bool true | .bool false | .int _ | .str _ => rfl
  | .arr [] | .obj [] => by rw [chars, spaced]
  | .arr (v :: vs) => by simp [chars, spaced, Spacing.none, chars_eq (level + 1) v, charsItems_eq level vs]
  | .obj ((k, v) :: ms) => by simp [chars, spaced, Spacing.none, chars_eq (level + 1) v, charsMembers_eq level ms]

theorem charsItems_eq (level : Nat) : ∀ vs : List Value, chars.charsItems vs = spaced.spacedItems .none level vs
  | [] => rfl
  | v :: vs => by
    simp [chars.charsItems, spaced.spacedItems, Spacing.none, chars_eq (level + 1) v, charsItems_eq level vs]

theorem charsMembers_eq (level : Nat) :
    ∀ ms : List (String × Value), chars.charsMembers ms = spaced.spacedMembers .none level ms
  | [] => rfl
  | (k, v) :: ms => by
    simp [chars.charsMembers, spaced.spacedMembers, Spacing.none, chars_eq (level + 1) v, charsMembers_eq level ms]

end

mutual

theorem prettyChars_eq (level : Nat) : ∀ v : Value, v.prettyChars level = v.spaced .lines level
  | .null | .bool true | .bool false | .int _ | .str _ => rfl
  | .arr [] | .obj [] => by rw [prettyChars, spaced]
  | .arr (v :: vs) => by
    simp [prettyChars, spaced, Spacing.lines, prettyChars_eq (level + 1) v, prettyItems_eq level vs]
  | .obj ((k, v) :: ms) => by
    simp [prettyChars, spaced, Spacing.lines, prettyChars_eq (level + 1) v, prettyMembers_eq level ms]

theorem prettyItems_eq (level : Nat) :
    ∀ vs : List Value, prettyChars.prettyItems level vs = spaced.spacedItems .lines level vs
  | [] => rfl
  | v :: vs => by
    simp [prettyChars.prettyItems, spaced.spacedItems, Spacing.lines, prettyChars_eq (level + 1) v,
      prettyItems_eq level vs]

theorem prettyMembers_eq (level : Nat) :
    ∀ ms : List (String × Value), prettyChars.prettyMembers level ms = spaced.spacedMembers .lines level ms
  | [] => rfl
  | (k, v) :: ms => by
    simp [prettyChars.prettyMembers, spaced.spacedMembers, Spacing.lines, prettyChars_eq (level + 1) v,
      prettyMembers_eq level ms]

end

end Value

/-- A value that was written without blanks is read as its tree. -/
theorem Document.read_compact (v : Value) : Document.read (Symbol.ofString v.compact) = ⟨v.tree, true⟩ := by
  rw [Value.compact, v.chars_eq 0, read_spaced Spacing.none_blank]

/-- A value that was written on lines is read as its tree. -/
theorem Document.read_pretty (v : Value) : Document.read (Symbol.ofString v.pretty) = ⟨v.tree, true⟩ := by
  rw [Value.pretty, v.prettyChars_eq 0, read_spaced Spacing.lines_blank]

end LedgerNet.Json
