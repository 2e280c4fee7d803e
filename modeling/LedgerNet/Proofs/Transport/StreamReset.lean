import Mathlib
import LedgerNet.Outcome

/-!
The words of a stream reset are found wherever they stand in a message, and nothing else is taken for them, whatever
comes close before or after. Both engines go by them: an internal failure is worth another attempt, or another
stream, for exactly the messages that hold them.
-/
namespace LedgerNet

namespace StreamReset

open Text

/-- A character without regard to case, as far as that makes an ASCII letter of it. Beyond ASCII it does so of the
long s and of the Kelvin sign. -/
def caseless (c : Char) : Char :=
  if c = '\u017F' then 's' else if c = '\u212A' then 'k' else c.toLower

/-- The two words, without regard to case, and one character between them. -/
inductive Spelled (separates : Char → Prop) : List Char → Prop where
  | intro {first second : List Char} {c : Char} (rst : first.map caseless = ['r', 's', 't']) (between : separates c)
      (stream : second.map caseless = ['s', 't', 'r', 'e', 'a', 'm']) : Spelled separates (first ++ c :: second)

/-- The two words stand somewhere in a text, no word character before them and none after them. -/
def Mentions (separates : Char → Prop) (s : List Char) : Prop :=
  ∃ before words after, s = before ++ words ++ after ∧ Spelled separates words ∧
    (∀ c ∈ before.getLast?, CharClass.isWord c = false) ∧ ∀ c ∈ after.head?, CharClass.isWord c = false

/-- Without regard to case, a character is no ASCII letter or digit. -/
def Separates (c : Char) : Prop := (caseless c).isAlphanum = false

theorem toLower_eq_iff {letter c : Char} (hlower : letter.isLower = true) :
    c.toLower = letter ↔ c = letter ∨ c = letter.toUpper := by
  constructor
  · rintro rfl
    by_cases hupper : c.isUpper = true
    · rw [Char.toUpper_toLower_eq_toUpper, Char.toUpper_eq_of_not_isLower (Char.not_isLower_of_isUpper hupper)]
      exact .inr rfl
    · exact .inl (Char.toLower_eq_of_not_isUpper hupper).symm
  · have hkept : letter.toLower = letter := Char.toLower_eq_of_not_isUpper (Char.not_isUpper_of_isLower hlower)
    rintro (rfl | rfl)
    · exact hkept
    · rw [Char.toLower_toUpper_eq_toLower, hkept]

theorem isAlphanum_toLower (c : Char) : c.toLower.isAlphanum = c.isAlphanum := by
  by_cases hupper : c.isUpper = true
  · have halpha : c.isAlpha = true := by rw [Char.isAlpha, hupper, Bool.true_or]
    rw [Char.isAlphanum, Char.isAlphanum, Char.isAlpha_toLower_eq_isAlpha, halpha, Bool.true_or, Bool.true_or]
  · rw [Char.toLower_eq_of_not_isUpper hupper]

theorem caseless_cases (c : Char) : c = '\u017F' ∧ caseless c = 's' ∨ c = '\u212A' ∧ caseless c = 'k' ∨
    c ≠ '\u017F' ∧ c ≠ '\u212A' ∧ caseless c = c.toLower := by
  unfold caseless
  split
  · rename_i hlong
    exact .inl ⟨hlong, rfl⟩
  · rename_i hlong
    split
    · rename_i hkelvin
      exact .inr (.inl ⟨hkelvin, rfl⟩)
    · rename_i hkelvin
      exact .inr (.inr ⟨hlong, hkelvin, rfl⟩)

theorem sameLetter_iff {letter c : Char} (hlower : letter.isLower = true) :
    sameLetter letter c = true ↔ caseless c = letter := by
  have hne : ∀ {d : Char}, d.isLower = false → letter ≠ d := by
    rintro d hd rfl
    exact Bool.noConfusion (hlower.symm.trans hd)
  have hbeyond : letter ≠ '\u017F' ∧ letter ≠ '\u212A' := ⟨hne (by decide), hne (by decide)⟩
  simp only [sameLetter, Bool.or_eq_true, Bool.and_eq_true, beq_iff_eq, ← toLower_eq_iff hlower]
  rcases caseless_cases c with ⟨rfl, hcase⟩ | ⟨rfl, hcase⟩ | ⟨hlong, hkelvin, hcase⟩
  · simp [hcase, hbeyond, eq_comm]
  · simp [hcase, hbeyond, eq_comm]
  · simp [hcase, hlong, hkelvin]

theorem isSeparator_iff {c : Char} : isSeparator c = true ↔ Separates c := by
  unfold Separates
  rcases caseless_cases c with ⟨rfl, hcase⟩ | ⟨rfl, hcase⟩ | ⟨hlong, hkelvin, hcase⟩
  · rw [hcase]
    decide
  · rw [hcase]
    decide
  · simp [isSeparator, hcase, hlong, hkelvin, isAlphanum_toLower]

/-- What is left of a text is what comes after some spelling of the word. -/
theorem afterWord_eq_some_iff {word s rest : List Char} (hlower : ∀ letter ∈ word, letter.isLower = true) :
    afterWord word s = some rest ↔ ∃ found, s = found ++ rest ∧ found.map caseless = word := by
  induction word generalizing s with
  | nil => simp [afterWord]
  | cons letter word ih =>
    obtain ⟨hletter, hword⟩ := List.forall_mem_cons.mp hlower
    cases s with
    | nil => simp [afterWord]
    | cons c s =>
      rw [afterWord]
      constructor
      · intro h
        split at h
        · rename_i hsame
          obtain ⟨found, rfl, hfound⟩ := (ih hword).mp h
          exact ⟨c :: found, rfl, by rw [List.map_cons, hfound, (sameLetter_iff hletter).mp hsame]⟩
        · cases h
      · rintro ⟨found, hs, hfound⟩
        obtain ⟨d, more, rfl, hd, hmore⟩ := List.map_eq_cons_iff.mp hfound
        obtain ⟨rfl, rfl⟩ := List.cons_eq_cons.mp hs
        rw [if_pos ((sameLetter_iff hletter).mpr hd)]
        exact (ih hword).mpr ⟨more, rfl, hmore⟩

theorem wordEnds_iff {s : List Char} : wordEnds s = true ↔ ∀ c ∈ s.head?, CharClass.isWord c = false := by
  cases s <;> simp [wordEnds]

/-- A text begins with the two words if they are its first and no word character comes after them. -/
theorem startsHere_iff {s : List Char} : startsHere s = true ↔
    ∃ words after, s = words ++ after ∧ Spelled Separates words ∧ ∀ c ∈ after.head?, CharClass.isWord c = false := by
  have hrst : ∀ letter ∈ ['r', 's', 't'], letter.isLower = true := by simp
  have hstream : ∀ letter ∈ ['s', 't', 'r', 'e', 'a', 'm'], letter.isLower = true := by simp
  constructor
  · intro h
    unfold startsHere at h
    split at h
    · rename_i c rest hrest
      obtain ⟨hc, hend⟩ := Bool.and_eq_true_iff.mp h
      obtain ⟨first, rfl, hfirst⟩ := (afterWord_eq_some_iff hrst).mp hrest
      split at hend
      · rename_i after hdone
        obtain ⟨second, rfl, hsecond⟩ := (afterWord_eq_some_iff hstream).mp hdone
        exact ⟨first ++ c :: second, after, by simp, .intro hfirst (isSeparator_iff.mp hc) hsecond,
          wordEnds_iff.mp hend⟩
      · cases hend
    · cases h
  · rintro ⟨_, after, rfl, @⟨first, second, c, hfirst, hc, hsecond⟩, hafter⟩
    have hrest : afterWord ['r', 's', 't'] ((first ++ c :: second) ++ after) = some (c :: (second ++ after)) :=
      (afterWord_eq_some_iff hrst).mpr ⟨first, by simp, hfirst⟩
    have hdone : afterWord ['s', 't', 'r', 'e', 'a', 'm'] (second ++ after) = some after :=
      (afterWord_eq_some_iff hstream).mpr ⟨second, rfl, hsecond⟩
    simp only [startsHere, hrest, hdone, isSeparator_iff.mpr hc, wordEnds_iff.mpr hafter, Bool.and_self]

/-- Whether a word goes on after a text, given whether one does before it. -/
def endsInWord (inWord : Bool) (s : List Char) : Bool := s.foldl (fun _ c => CharClass.isWord c) inWord

theorem endsInWord_eq_false_iff {s : List Char} :
    endsInWord false s = false ↔ ∀ c ∈ s.getLast?, CharClass.isWord c = false := by
  induction s using List.reverseRecOn with
  | nil => simp [endsInWord]
  | append_singleton s c _ => simp [endsInWord]

/-- The search comes by every place of a text, and knows at each whether it is in the middle of a word. -/
theorem occurs_iff {inWord : Bool} {s : List Char} : occurs inWord s = true ↔
    ∃ before rest, s = before ++ rest ∧ endsInWord inWord before = false ∧ startsHere rest = true := by
  -- For either value of the flag: what is said of the rest of a text depends on the character just passed.
  induction s generalizing inWord with
  | nil =>
    refine iff_of_false Bool.false_ne_true ?_
    rintro ⟨before, rest, hnil, -, hstarts⟩
    obtain ⟨-, rfl⟩ := List.append_eq_nil_iff.mp hnil.symm
    cases hstarts
  | cons c s ih =>
    rw [occurs, Bool.or_eq_true, Bool.and_eq_true, ih]
    constructor
    · rintro (⟨hout, hstarts⟩ | ⟨before, rest, rfl, hout, hstarts⟩)
      · exact ⟨[], c :: s, rfl, by simpa [endsInWord] using hout, hstarts⟩
      · exact ⟨c :: before, rest, rfl, hout, hstarts⟩
    · rintro ⟨before, rest, hs, hout, hstarts⟩
      cases before with
      | nil =>
        obtain rfl : c :: s = rest := hs
        exact .inl ⟨by simpa [endsInWord] using hout, hstarts⟩
      | cons d before =>
        obtain ⟨rfl, rfl⟩ := List.cons_eq_cons.mp hs
        exact .inr ⟨before, rest, rfl, hout, hstarts⟩

/-- A message is taken for one of a reset exactly when it mentions one. -/
theorem mentioned_iff {message : String} : mentioned message = true ↔ Mentions Separates message.toList := by
  rw [mentioned, occurs_iff]
  constructor
  · rintro ⟨before, rest, hmessage, hbefore, hstarts⟩
    obtain ⟨words, after, rfl, hwords, hafter⟩ := startsHere_iff.mp hstarts
    exact ⟨before, words, after, by rw [hmessage, List.append_assoc], hwords, endsInWord_eq_false_iff.mp hbefore, hafter⟩
  · rintro ⟨before, words, after, hmessage, hwords, hbefore, hafter⟩
    exact ⟨before, words ++ after, by rw [hmessage, List.append_assoc], endsInWord_eq_false_iff.mpr hbefore,
      startsHere_iff.mpr ⟨words, after, rfl, hwords, hafter⟩⟩

/-- Which messages are of a reset, and what follows for an internal failure in either engine. -/
theorem recognised_exactly (message : String) :
    (mentioned message = true ↔ Mentions Separates message.toList) ∧
      ((Status.internal message).classify.isRetryable = true ↔ Mentions Separates message.toList) ∧
      ((Status.internal message).isStreamRetryable = true ↔ Mentions Separates message.toList) := by
  refine ⟨mentioned_iff, ?_, ?_⟩
  · rw [← mentioned_iff]
    simp [Status.classify, Outcome.isRetryable, Status.isStreamReset, Status.internal]
  · rw [← mentioned_iff]
    simp [Status.isStreamRetryable, Status.isStreamReset, Status.internal]

/-- The Kelvin sign is not of ASCII, and separates no words. -/
theorem not_always_recognised :
    ¬ ∀ message : String, mentioned message = true ↔ Mentions (fun c => c.isAlphanum = false) message.toList := by
  intro h
  have hrst : ['r', 's', 't'].map caseless = ['r', 's', 't'] := by decide_cbv
  have hstream : ['s', 't', 'r', 'e', 'a', 'm'].map caseless = ['s', 't', 'r', 'e', 'a', 'm'] := by decide_cbv
  have hmentions : Mentions (fun c => c.isAlphanum = false) "rst\u212Astream".toList :=
    ⟨[], _, [], by simp, @Spelled.intro _ _ _ '\u212A' hrst (by decide) hstream, by simp, by simp⟩
  have hmissed : mentioned "rst\u212Astream" = false := by
    simp [mentioned, occurs, startsHere, afterWord, sameLetter, isSeparator]
  exact Bool.noConfusion (hmissed.symm.trans ((h _).mpr hmentions))

end StreamReset

end LedgerNet
