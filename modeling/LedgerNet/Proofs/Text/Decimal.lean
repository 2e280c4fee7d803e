import Mathlib
import LedgerNet.Text.Natural

/-! The digits of a number in decimal, and that reading them gives the number back. -/
namespace LedgerNet.Text.Natural

/-- The digits of a number, most significant first. -/
def digits (n : Nat) : List Nat := (Nat.toDigits 10 n).map (·.toNat - 48)

/-- The number that digits denote when they follow some that denote `n`. -/
def value (n : Nat) (digits : List Nat) : Nat := digits.foldl (fun n d => n * 10 + d) n

theorem digit_of_mem {c : Char} {n : Nat} (h : c ∈ Nat.toDigits 10 n) : '0' ≤ c ∧ c ≤ '9' := by
  have hd := Nat.isDigit_of_mem_toDigits (by decide) (by decide) h
  simpa [Char.isDigit, Char.le_def] using hd

theorem digits_ne_nil (n : Nat) : digits n ≠ [] := by
  simp [digits]

theorem digits_of_lt {n : Nat} (h : n < 10) : digits n = [n] := by
  simp [digits, Nat.toDigits_of_lt_base h, Nat.toNat_digitChar_of_lt_ten h]

theorem digits_of_le {n : Nat} (h : 10 ≤ n) : digits n = digits (n / 10) ++ [n % 10] := by
  have hlt : n % 10 < 10 := Nat.mod_lt n (by decide)
  simp [digits, Nat.toDigits_of_base_le (by decide) h, Nat.toNat_digitChar_of_lt_ten hlt]

theorem value_append (n : Nat) (ds es : List Nat) : value n (ds ++ es) = value (value n ds) es :=
  List.foldl_append

/-- The digits of a number denote it. -/
theorem value_digits (n : Nat) : value 0 (digits n) = n := by
  induction n using Nat.strongRecOn with
  | ind n ih =>
    by_cases h : n < 10
    · simp [digits_of_lt h, value]
    · have hle : 10 ≤ n := Nat.le_of_not_lt h
      rw [digits_of_le hle, value_append, ih (n / 10) (by omega)]
      simp only [value, List.foldl_cons, List.foldl_nil]
      omega

/-- Only zero has a leading zero. -/
theorem eq_zero_of_head {n : Nat} {rest : List Nat} (h : digits n = 0 :: rest) : n = 0 := by
  induction n using Nat.strongRecOn generalizing rest with
  | ind n ih =>
    by_cases hlt : n < 10
    · rw [digits_of_lt hlt] at h
      exact (List.cons.inj h).1
    · have hle : 10 ≤ n := Nat.le_of_not_lt hlt
      rw [digits_of_le hle] at h
      cases hd : digits (n / 10) with
      | nil => exact absurd hd (digits_ne_nil _)
      | cons d more =>
        rw [hd, List.cons_append] at h
        have hz := ih (n / 10) (by omega) (hd.trans (by rw [(List.cons.inj h).1]))
        omega

theorem le_value (n : Nat) (ds : List Nat) : n ≤ value n ds := by
  induction ds generalizing n with
  | nil => exact Nat.le_refl n
  | cons d rest ih => exact Nat.le_trans (by omega) (ih (n * 10 + d))

theorem readDigits_of_digits {cs : List Char} (h : ∀ c ∈ cs, '0' ≤ c ∧ c ≤ '9') (n : Nat) :
    readDigits n cs = some (value n (cs.map (·.toNat - 48))) := by
  induction cs generalizing n with
  | nil => rfl
  | cons c rest ih =>
    have hc := h c List.mem_cons_self
    have hd : digit? c = some (c.toNat - 48) := by simp [digit?, hc]
    simp only [readDigits, hd, Option.bind_some]
    exact ih (fun c hc => h c (List.mem_cons_of_mem _ hc)) _

/-- A number that keeps within the limit is read back from its digits. -/
theorem read_toDigits {limit n : Nat} (h : n ≤ limit) : read? limit (Nat.toDigits 10 n) = some n := by
  have hread : readDigits 0 (Nat.toDigits 10 n) = some n := by
    rw [readDigits_of_digits (fun c hc => digit_of_mem hc)]
    exact congrArg some (value_digits n)
  unfold read?
  split
  · rename_i rest heq
    have hplus : '+' ∈ Nat.toDigits 10 n := by
      rw [heq]
      exact List.mem_cons_self
    exact absurd (digit_of_mem hplus) (by decide)
  · simp [hread, h]

/-- Whether `digits` write the number, leading zeros or not. -/
def Numeral (digits : List Char) (n : Nat) : Prop :=
  digits ≠ [] ∧ (∀ c ∈ digits, '0' ≤ c ∧ c ≤ '9') ∧ value 0 (digits.map (·.toNat - 48)) = n

/-- Whether the text is that of the number, with or without a plus sign in front of the digits. -/
def Denotes (text : List Char) (n : Nat) : Prop :=
  ∃ digits, Numeral digits n ∧ (text = digits ∨ text = '+' :: digits)

theorem Numeral.not_plus {digits : List Char} {n : Nat} (h : Numeral digits n) : '+' ∉ digits :=
  fun hplus => absurd (h.2.1 _ hplus) (by decide)

theorem digits_of_readDigits {cs : List Char} {k n : Nat} (h : readDigits k cs = some n) :
    ∀ c ∈ cs, '0' ≤ c ∧ c ≤ '9' := by
  induction cs generalizing k with
  | nil => exact fun _ hc => nomatch hc
  | cons c rest ih =>
    obtain ⟨d, hd, hrest⟩ := Option.bind_eq_some_iff.mp h
    refine List.forall_mem_cons.mpr ⟨?_, ih hrest⟩
    by_contra hc
    rw [digit?, if_neg hc] at hd
    cases hd

theorem numeral_iff {digits : List Char} {n : Nat} :
    Numeral digits n ↔ digits ≠ [] ∧ readDigits 0 digits = some n := by
  constructor
  · rintro ⟨hsome, hdigits, hn⟩
    exact ⟨hsome, (readDigits_of_digits hdigits 0).trans (congrArg some hn)⟩
  · rintro ⟨hsome, hread⟩
    have hdigits := digits_of_readDigits hread
    rw [readDigits_of_digits hdigits] at hread
    exact ⟨hsome, hdigits, Option.some.inj hread⟩

/-- What is read is the number that the text denotes, so long as it keeps within the limit. -/
theorem read_iff {limit n : Nat} {text : List Char} : read? limit text = some n ↔ Denotes text n ∧ n ≤ limit := by
  have hbare (digits : List Char) :
      (if digits.isEmpty then none else (readDigits 0 digits).filter (· ≤ limit)) = some n ↔
        Numeral digits n ∧ n ≤ limit := by
    simp [numeral_iff, Option.filter_eq_some_iff, and_assoc]
  unfold read?
  split
  · rename_i rest
    rw [hbare]
    refine and_congr_left fun _ => ⟨fun h => ⟨rest, h, .inr rfl⟩, ?_⟩
    rintro ⟨digits, h, rfl | heq⟩
    · exact absurd List.mem_cons_self h.not_plus
    · cases heq
      exact h
  · rename_i hunsigned
    rw [hbare]
    refine and_congr_left fun _ => ⟨fun h => ⟨text, h, .inl rfl⟩, ?_⟩
    rintro ⟨digits, h, rfl | heq⟩
    · exact h
    · exact absurd heq (hunsigned digits)

theorem Denotes.not_mem {c : Char} {text : List Char} {n : Nat} (h : Denotes text n) (hplus : c ≠ '+')
    (hdigit : ¬ ('0' ≤ c ∧ c ≤ '9')) : c ∉ text := by
  obtain ⟨digits, ⟨-, hdigits, -⟩, rfl | rfl⟩ := h
  · exact fun hc => hdigit (hdigits c hc)
  · rw [List.mem_cons, not_or]
    exact ⟨hplus, fun hc => hdigit (hdigits c hc)⟩

end LedgerNet.Text.Natural
