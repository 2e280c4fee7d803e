import LedgerNet.Proofs.Text.Utf8
import LedgerNet.Text.Hex

/-! A text is read as some bytes exactly when it is their hexadecimal digits, in either case. -/
namespace LedgerNet.Text.Hex

/-- The values of the digits of some bytes. -/
def nibbles (bytes : Bytes) : List Nat := bytes.flatMap fun b => [b.toNat / 16, b.toNat % 16]

theorem nibbles_cons (b : UInt8) (rest : Bytes) : nibbles (b :: rest) = b.toNat / 16 :: b.toNat % 16 :: nibbles rest :=
  rfl

theorem lt_of_mem_nibbles {bytes : Bytes} {n : Nat} (h : n ∈ nibbles bytes) : n < 16 := by
  obtain ⟨b, -, hb⟩ := List.mem_flatMap.mp h
  have hlt : b.toNat < 256 := b.toNat_lt
  simp only [List.mem_cons, List.not_mem_nil, or_false] at hb
  omega

theorem toList_encode (bytes : Bytes) : (encode bytes).toList = (nibbles bytes).map digit := by
  rw [encode, String.toList_ofList, nibbles, List.map_flatMap]
  rfl

theorem value_lt {b : UInt8} {n : Nat} (h : value? b = some n) : n < 16 := by
  simp only [value?] at h
  split at h
  · cases h
    omega
  · split at h
    · cases h
      omega
    · split at h
      · cases h
        omega
      · cases h

/-- Only the bytes of plain characters are digits. -/
theorem value_none {b : Nat} (hlow : 128 ≤ b) (hhigh : b < 256) : value? (UInt8.ofNat b) = none := by
  have hb : (UInt8.ofNat b).toNat = b := UInt8.toNat_ofNat_of_lt' hhigh
  simp only [value?, hb]
  rw [if_neg (by omega), if_neg (by omega), if_neg (by omega)]

theorem value_plain : ∀ k < 128, ∀ n < 16,
    value? (UInt8.ofNat k) = some n ↔ (Char.ofNat k).toLower = digit n := by
  decide

theorem toLower_digit : ∀ n < 16, (digit n).toLower = digit n ∧ (digit n).toNat < 128 := by
  decide

/-- What is a digit in lower case is a plain character. -/
theorem plain_of_toLower {c : Char} {n : Nat} (hn : n < 16) (h : c.toLower = digit n) : c.toNat < 128 := by
  unfold Char.toLower at h
  split at h
  · rename_i hupper
    have hz : c.toNat ≤ 'Z'.toNat := hupper.2
    exact Nat.lt_of_le_of_lt hz (by decide)
  · rw [h]
    exact (toLower_digit n hn).2

theorem encode_plain {c : Char} (h : c.toNat < 128) : String.utf8EncodeChar c = [UInt8.ofNat c.toNat] := by
  simp only [String.utf8EncodeChar, Char.toNat_val]
  rw [if_pos (by omega)]

/-- The first byte of any other character is no digit. -/
theorem encode_not_plain {c : Char} (h : ¬ c.toNat < 128) :
    ∃ first rest, String.utf8EncodeChar c = first :: rest ∧ value? first = none := by
  simp only [String.utf8EncodeChar, Char.toNat_val]
  rw [if_neg (by omega)]
  split
  · exact ⟨_, _, rfl, value_none (by omega) (by omega)⟩
  · split
    · exact ⟨_, _, rfl, value_none (by omega) (by omega)⟩
    · exact ⟨_, _, rfl, value_none (by omega) (by omega)⟩

/-- The bytes of a text are digits of some values exactly when its characters are these digits. -/
theorem values_iff {cs : List Char} {ns : List Nat} (hns : ∀ n ∈ ns, n < 16) :
    (cs.flatMap String.utf8EncodeChar).map value? = ns.map some ↔ cs.map Char.toLower = ns.map digit := by
  induction cs generalizing ns with
  | nil => cases ns <;> simp
  | cons c rest ih =>
    cases ns with
    | nil =>
      by_cases hplain : c.toNat < 128
      · simp [encode_plain hplain]
      · obtain ⟨first, more, hc, -⟩ := encode_not_plain hplain
        simp [hc]
    | cons n ns =>
      have hn : n < 16 := hns n List.mem_cons_self
      have hrest := ih fun n hmem => hns n (List.mem_cons_of_mem _ hmem)
      by_cases hplain : c.toNat < 128
      · have hvalue := value_plain c.toNat hplain n hn
        rw [Char.ofNat_toNat] at hvalue
        simp only [List.flatMap_cons, encode_plain hplain, List.singleton_append, List.map_cons, List.cons.injEq, hvalue,
          hrest]
      · obtain ⟨first, more, hc, hnone⟩ := encode_not_plain hplain
        have hother : c.toLower ≠ digit n := fun h => hplain (plain_of_toLower hn h)
        simp [hc, hnone, hother]

/-- What is read of two digits and more. -/
theorem decodeFrom_pair (place : Nat) (high low : UInt8) (rest : Bytes) {read : Bytes} :
    decodeFrom place (high :: low :: rest) = .ok read ↔ ∃ h l more, value? high = some h ∧ value? low = some l ∧
      decodeFrom (place + 2) rest = .ok more ∧ UInt8.ofNat (h * 16 + l) :: more = read := by
  rw [decodeFrom]
  cases hh : value? high with
  | none => simp
  | some h =>
    cases hl : value? low with
    | none => simp
    | some l =>
      cases hmore : decodeFrom (place + 2) rest with
      | error fault =>
        simp only [reduceCtorEq, false_and, and_false, exists_false, iff_false]
        intro heq
        cases heq
      | ok more =>
        constructor
        · intro heq
          exact ⟨h, l, more, rfl, rfl, rfl, Except.ok.inj heq⟩
        · rintro ⟨_, _, _, ⟨⟩, ⟨⟩, ⟨⟩, rfl⟩
          rfl

/-- An even count of digits is read as some bytes exactly when these are their values. -/
theorem decodeFrom_iff (place : Nat) {digits bytes : Bytes} (heven : digits.length % 2 = 0) :
    decodeFrom place digits = .ok bytes ↔ digits.map value? = (nibbles bytes).map some := by
  induction bytes generalizing place digits with
  | nil =>
    match digits, heven with
    | [], _ => simp [decodeFrom, nibbles]
    | high :: low :: rest, _ =>
      rw [decodeFrom_pair]
      simp [nibbles]
  | cons b bytes ih =>
    match digits, heven with
    | [], _ => simp [decodeFrom, nibbles_cons]
    | high :: low :: rest, heven =>
      have hrest : rest.length % 2 = 0 := by
        simp only [List.length_cons] at heven
        omega
      rw [decodeFrom_pair, nibbles_cons, List.map_cons, List.map_cons, List.map_cons, List.map_cons, List.cons.injEq,
        List.cons.injEq, ← ih (place + 2) hrest]
      constructor
      · rintro ⟨h, l, more, hh, hl, hmore, hread⟩
        obtain ⟨rfl, rfl⟩ := List.cons.inj hread
        have hhigh := value_lt hh
        have hlow := value_lt hl
        have hbyte : (UInt8.ofNat (h * 16 + l)).toNat = h * 16 + l := UInt8.toNat_ofNat_of_lt' (by
          change h * 16 + l < 256
          omega)
        rw [hbyte, hh, hl, hmore]
        refine ⟨congrArg some (by omega), congrArg some (by omega), rfl⟩
      · rintro ⟨hh, hl, hmore⟩
        refine ⟨_, _, bytes, hh, hl, hmore, ?_⟩
        rw [Nat.div_add_mod', UInt8.ofNat_toNat]

theorem length_nibbles (bytes : Bytes) : (nibbles bytes).length = 2 * bytes.length := by
  induction bytes with
  | nil => rfl
  | cons b rest ih =>
    rw [nibbles_cons, List.length_cons, List.length_cons, ih, List.length_cons]
    omega

/-- A text is read as some bytes exactly when in lower case it is how they are written. -/
theorem decode_iff {text : String} {bytes : Bytes} : decode text = .ok bytes ↔ text.toLower = encode bytes := by
  have hvalues : (Utf8.encode text).map value? = (nibbles bytes).map some ↔ text.toLower = encode bytes := by
    rw [← String.toList_inj, String.toLower, String.toList_map, toList_encode, ← values_iff fun n => lt_of_mem_nibbles,
      ← Utf8.encode_ofList, String.ofList_toList]
  rw [← hvalues, decode, decodeBytes]
  split
  · rename_i hodd
    constructor
    · intro h
      cases h
    · intro h
      have hlength := congrArg List.length h
      rw [List.length_map, List.length_map, length_nibbles] at hlength
      omega
  · exact decodeFrom_iff 0 (by omega)

theorem toLower_encode (bytes : Bytes) : (encode bytes).toLower = encode bytes := by
  rw [← String.toList_inj, String.toLower, String.toList_map, toList_encode, List.map_map]
  exact List.map_congr_left fun n hn => (toLower_digit n (lt_of_mem_nibbles hn)).1

theorem decode_encode (bytes : Bytes) : decode (encode bytes) = .ok bytes := decode_iff.mpr (toLower_encode bytes)

theorem decode?_iff {text : String} {bytes : Bytes} : decode? text = some bytes ↔ text.toLower = encode bytes := by
  rw [← decode_iff, decode?]
  cases decode text <;> simp [Except.toOption]

end LedgerNet.Text.Hex
