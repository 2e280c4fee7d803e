import Mathlib
import LedgerNet.Text.Utf8

/-! The bytes of a text are those of its characters, one after the other, and the text is read back from them. -/
namespace LedgerNet.Text.Utf8

theorem toList_bytes (bs : ByteArray) : bs.toList = bs.data.toList := by
  have hloop (i : Nat) (r : List UInt8) : ByteArray.toList.loop bs i r = r.reverse ++ bs.data.toList.drop i := by
    fun_induction ByteArray.toList.loop bs i r with
    | case1 i r h ih =>
      have hi : i < bs.data.toList.length := h
      have hget : bs.get! i = bs.data.toList[i] := getElem!_pos bs.data i h
      rw [ih, hget, List.reverse_cons, List.append_assoc, List.drop_eq_getElem_cons hi]
      rfl
    | case2 i r h =>
      have hi : bs.data.toList.length ≤ i := Nat.le_of_not_lt h
      rw [List.drop_eq_nil_of_le hi, List.append_nil]
  exact hloop 0 []

theorem encode_ofList (cs : List Char) : encode (String.ofList cs) = cs.flatMap String.utf8EncodeChar := by
  have hb : (String.ofList cs).toUTF8 = (cs.flatMap String.utf8EncodeChar).toByteArray := by
    simp [String.toUTF8, List.utf8Encode]
  rw [encode, hb, toList_bytes, List.toList_data_toByteArray]

theorem encode_ne_nil {s : String} (h : s.toList ≠ []) : encode s ≠ [] := by
  obtain ⟨c, cs, hcs⟩ := List.exists_cons_of_ne_nil h
  have hchar : String.utf8EncodeChar c ≠ [] := List.length_pos_iff.mp (by simpa using c.utf8Size_pos)
  rw [← String.ofList_toList (s := s), encode_ofList, hcs, List.flatMap_cons]
  exact List.append_ne_nil_of_left_ne_nil hchar _

theorem start_two {k : Nat} (hlow : 2 ≤ k) (hhigh : k < 0x20) :
    start (k + 0xC0) = ([], some ⟨k, 1, 0x80, 0xBF⟩) := by
  interval_cases k <;> rfl

/-- The second byte of three rules out what two bytes can spell, and the surrogates. -/
theorem start_three {k : Nat} (hk : k < 0x10) :
    start (k + 0xE0) = ([], some ⟨k, 2, if k = 0 then 0xA0 else 0x80, if k = 0xD then 0x9F else 0xBF⟩) := by
  interval_cases k <;> rfl

/-- The second byte of four rules out what three bytes can spell, and what is beyond the last character. -/
theorem start_four {k : Nat} (hk : k < 5) :
    start (k + 0xF0) = ([], some ⟨k, 3, if k = 0 then 0x90 else 0x80, if k = 4 then 0x8F else 0xBF⟩) := by
  interval_cases k <;> rfl

theorem toNat_byte {b : Nat} (h : b < 256) : (UInt8.ofNat b).toNat = b := UInt8.toNat_ofNat_of_lt' h

theorem decodeFrom_begun {b : Nat} {p : Begun} (hb : b < 256) (h : start b = ([], some p)) (rest : Bytes) :
    decodeFrom none (UInt8.ofNat b :: rest) = decodeFrom (some p) rest := by
  simp only [decodeFrom, step, toNat_byte hb, h, List.nil_append]

/-- A byte that may come next, with more owed after it. -/
theorem decodeFrom_more {value owed low high b : Nat} (hb : b < 0x40) (hlow : low ≤ b + 0x80) (hhigh : b + 0x80 ≤ high)
    (rest : Bytes) : decodeFrom (some ⟨value, owed + 2, low, high⟩) (UInt8.ofNat (b + 0x80) :: rest) =
      decodeFrom (some ⟨value * 64 + b, owed + 1, 0x80, 0xBF⟩) rest := by
  have hbyte : (UInt8.ofNat (b + 0x80)).toNat = b + 0x80 := toNat_byte (by omega)
  simp only [decodeFrom, step, hbyte]
  rw [if_pos ⟨hlow, hhigh⟩, if_neg (by omega), Nat.add_sub_cancel]
  rfl

/-- The last byte of a character. -/
theorem decodeFrom_last {value b : Nat} (hb : b < 0x40) (rest : Bytes) :
    decodeFrom (some ⟨value, 1, 0x80, 0xBF⟩) (UInt8.ofNat (b + 0x80) :: rest) =
      .char (Char.ofNat (value * 64 + b)) :: decodeFrom none rest := by
  have hbyte : (UInt8.ofNat (b + 0x80)).toNat = b + 0x80 := toNat_byte (by omega)
  simp only [decodeFrom, step, hbyte]
  rw [if_pos (by omega), if_pos trivial, Nat.add_sub_cancel]
  rfl

theorem decodeFrom_char (c : Char) (rest : Bytes) :
    decodeFrom none (String.utf8EncodeChar c ++ rest) = .char c :: decodeFrom none rest := by
  have hvalid : c.toNat < 0xD800 ∨ 0xDFFF < c.toNat ∧ c.toNat < 0x110000 := c.valid
  have hc : Char.ofNat c.toNat = c := c.ofNat_toNat
  unfold String.utf8EncodeChar
  dsimp only [Char.toNat_val]
  generalize c.toNat = v at hvalid hc ⊢
  subst hc
  split
  · rename_i hone
    have hbyte : (UInt8.ofNat v).toNat = v := toNat_byte (by omega)
    simp only [List.cons_append, List.nil_append, decodeFrom, step, start, hbyte]
    rw [if_pos (by omega)]
    rfl
  split
  · rename_i htwo
    have hk : v / 64 % 0x20 = v / 64 := by omega
    have hv : v / 64 * 64 + v % 0x40 = v := by omega
    rw [hk, List.cons_append, List.cons_append, List.nil_append,
      decodeFrom_begun (by omega) (start_two (by omega) (by omega)), decodeFrom_last (by omega), hv]
  split
  · rename_i hthree
    have hk : v / 4096 % 0x10 = v / 4096 := by omega
    have hv : (v / 4096 * 64 + v / 64 % 0x40) * 64 + v % 0x40 = v := by omega
    rw [hk, List.cons_append, List.cons_append, List.cons_append, List.nil_append,
      decodeFrom_begun (by omega) (start_three (by omega)),
      decodeFrom_more (by omega) (by split <;> omega) (by split <;> omega),
      decodeFrom_last (by omega), hv]
  · have hk : v / 262144 % 0x08 = v / 262144 := by omega
    have hv : ((v / 262144 * 64 + v / 4096 % 0x40) * 64 + v / 64 % 0x40) * 64 + v % 0x40 = v := by omega
    rw [hk, List.cons_append, List.cons_append, List.cons_append, List.cons_append, List.nil_append,
      decodeFrom_begun (by omega) (start_four (by omega)),
      decodeFrom_more (by omega) (by split <;> omega) (by split <;> omega),
      decodeFrom_more (by omega) (by omega) (by omega),
      decodeFrom_last (by omega), hv]

/-- A text is read back from its bytes. -/
theorem decode_encode (s : String) : decode (encode s) = Symbol.ofString s := by
  rw [← s.ofList_toList, encode_ofList, Symbol.ofString, String.toList_ofList, decode]
  generalize s.toList = cs
  induction cs with
  | nil => rfl
  | cons c rest ih => rw [List.flatMap_cons, decodeFrom_char, ih, List.map_cons]

end LedgerNet.Text.Utf8
