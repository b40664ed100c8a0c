import Highlight.Lexis.Form
import Mathlib.Tactic.Common

/-!
# Classes of characters

Which classes of characters do not meet. A search in a table answers yes only on a range that holds
the character (`Ranges.exists_range`), so that two classes are apart if their ranges are, and a
character is outside of a class if it is outside of its ranges; both are settled by going through
the tables.
-/

namespace Highlight

/-- A search that succeeds has found an entry. -/
lemma exists_of_bisect {α : Type} {side : α → Ordering} {table : Array α} {lo hi : Nat}
    (h : bisect side table lo hi = true) : ∃ entry ∈ table, side entry = .eq := by
  fun_induction bisect side table lo hi with
  | case1 => cases h
  | case2 lo hi lt mid entry at_mid before ih => exact ih h
  | case3 lo hi lt mid entry at_mid found =>
    exact ⟨entry, Array.mem_of_getElem? at_mid, found⟩
  | case4 lo hi lt mid entry at_mid behind ih => exact ih h
  | case5 => cases h

namespace Ranges

/-- Whether no range of a table meets the code points from `lo` to `hi`. -/
def avoids (ranges : Ranges) (lo hi : Nat) : Bool :=
  ranges.toList.all fun range => Nat.blt range.2 lo || Nat.blt hi range.1

/-- A range lies neither before nor behind the code points that it holds. -/
lemma side_eq_eq {n : Nat} {range : Nat × Nat} :
    side n range = .eq ↔ range.1 ≤ n ∧ n ≤ range.2 := by
  unfold side
  split_ifs with before behind
  · simp only [false_iff]
    omega
  · simp only [false_iff]
    omega
  · simp only [true_iff]
    omega

/-- A character that is found in a table lies in one of its ranges. -/
lemma exists_range {ranges : Ranges} {c : Char} (h : ranges.contains c = true) :
    ∃ range ∈ ranges, range.1 ≤ c.toNat ∧ c.toNat ≤ range.2 := by
  obtain ⟨range, mem, found⟩ := exists_of_bisect h
  exact ⟨range, mem, side_eq_eq.1 found⟩

/-- A character among code points that no range meets is not in the table. -/
lemma contains_of_avoids {ranges : Ranges} {lo hi : Nat} {c : Char} (h : ranges.avoids lo hi = true)
    (ge : lo ≤ c.toNat) (le : c.toNat ≤ hi) : ranges.contains c = false := by
  rw [Bool.eq_false_iff]
  intro found
  obtain ⟨range, mem, above, below⟩ := exists_range found
  have apart := List.all_eq_true.1 h range (Array.mem_toList_iff.2 mem)
  simp only [Bool.or_eq_true, Nat.blt_eq] at apart
  omega

/-- A character that the ranges avoid is in none of them. -/
lemma contains_of_avoids_self {ranges : Ranges} {c : Char}
    (h : ranges.avoids c.toNat c.toNat = true) : ranges.contains c = false :=
  contains_of_avoids h (Nat.le_refl _) (Nat.le_refl _)

/-- A character is in one at most of two tables whose ranges do not meet. -/
lemma contains_of_apart {a b : Ranges} {c : Char}
    (h : (a.toList.all fun range => b.avoids range.1 range.2) = true) (found : a.contains c = true) :
    b.contains c = false := by
  obtain ⟨range, mem, above, below⟩ := exists_range found
  exact contains_of_avoids (List.all_eq_true.1 h range (Array.mem_toList_iff.2 mem)) above below

end Ranges

/-! ### Sets of characters -/

/-- The characters that a number goes on with. -/
def NumberChar (c : Char) : Prop := isDigit c = true ∨ c = '.' ∨ c = 'e' ∨ c = 'E'

/-- The characters that a word begins with. -/
def WordStart (c : Char) : Prop := isLetter c = true ∨ c = '_'

/-- The characters that a word goes on with. -/
def WordChar (c : Char) : Prop := isAlphanumeric c = true ∨ c = '_'

instance : DecidablePred NumberChar := fun _ => inferInstanceAs (Decidable (_ ∨ _ ∨ _ ∨ _))

instance : DecidablePred WordChar := fun _ => inferInstanceAs (Decidable (_ ∨ _))

/-- The test for the beginning of a word, by its set. -/
lemma startsWord_iff (c : Char) : startsWord c = true ↔ isLetter c = true ∨ c = '_' := by
  simp [startsWord]

/-- The test for the rest of a word, by its set. -/
lemma continuesWord_iff (c : Char) : continuesWord c = true ↔ isAlphanumeric c = true ∨ c = '_' := by
  simp [continuesWord]

/-- The test for the rest of a number, by its set. -/
lemma isNumberPart_iff (c : Char) :
    isNumberPart c = true ↔ isDigit c = true ∨ c = '.' ∨ c = 'e' ∨ c = 'E' := by
  simp [isNumberPart, or_assoc]

/-- The test for the rest of a number. -/
lemma not_numberChar_iff {c : Char} : ¬NumberChar c ↔ isNumberPart c = false := by
  rw [← Bool.not_eq_true]
  exact not_congr (isNumberPart_iff c).symm

/-- The test for the beginning of a word. -/
lemma not_wordStart_iff {c : Char} : ¬WordStart c ↔ startsWord c = false := by
  rw [← Bool.not_eq_true]
  exact not_congr (startsWord_iff c).symm

/-- The test for the rest of a word. -/
lemma not_wordChar_iff {c : Char} : ¬WordChar c ↔ continuesWord c = false := by
  rw [← Bool.not_eq_true]
  exact not_congr (continuesWord_iff c).symm

/-- White space stands in no word. -/
lemma isWhiteSpace_of_continuesWord {c : Char} (h : continuesWord c = true) :
    isWhiteSpace c = false := by
  simp only [continuesWord, isAlphanumeric, Bool.or_eq_true, beq_iff_eq] at h
  rcases h with (letter | numeral) | rfl
  · exact Ranges.contains_of_apart (by decide +kernel) letter
  · exact Ranges.contains_of_apart (by decide +kernel) numeral
  · exact Ranges.contains_of_avoids_self (by decide +kernel)

/-- White space is no digit. -/
lemma isWhiteSpace_of_isDigit {c : Char} (h : isDigit c = true) : isWhiteSpace c = false := by
  unfold isDigit at h
  split at h
  · simp only [Bool.and_eq_true, decide_eq_true_eq] at h
    have avoids : whiteSpaceRanges.avoids 0x30 0x39 = true := by decide +kernel
    exact Ranges.contains_of_avoids avoids h.1 h.2
  · exact Ranges.contains_of_apart (by decide +kernel) h

/-- The characters that a scan tells apart by themselves are in none of the classes. -/
structure IsMark (c : Char) : Prop where
  white : isWhiteSpace c = false
  digit : isDigit c = false
  continues : continuesWord c = false

/-- Whether the ranges of all tables avoid a character that is neither a digit nor an underscore. -/
def isAvoided (c : Char) : Bool :=
  !isDigit c && c != '_' &&
    [whiteSpaceRanges, letterRanges, numeralRanges].all (·.avoids c.toNat c.toNat)

/-- A character that all ranges avoid is a mark. -/
lemma IsMark.of_isAvoided {c : Char} (h : isAvoided c = true) : IsMark c := by
  simp only [isAvoided, List.all_cons, List.all_nil, Bool.and_eq_true, Bool.not_eq_true',
    bne_iff_ne, and_true] at h
  obtain ⟨⟨digit, line⟩, white, letter, numeral⟩ := h
  refine ⟨Ranges.contains_of_avoids_self white, digit, ?_⟩
  have no_letter : isLetter c = false := Ranges.contains_of_avoids_self letter
  have no_numeral : numeralRanges.contains c = false := Ranges.contains_of_avoids_self numeral
  simp [continuesWord, isAlphanumeric, no_letter, no_numeral, line]

/-- A mark begins no word. -/
lemma IsMark.starts {c : Char} (mark : IsMark c) : startsWord c = false := by
  have continues := mark.continues
  simp only [continuesWord, isAlphanumeric, Bool.or_eq_false_iff] at continues
  simp [startsWord, continues.1.1, continues.2]

/-- Quotes are marks. -/
lemma isMark_of_isQuote {c : Char} (h : isQuote c = true) : IsMark c := by
  simp only [isQuote, Bool.or_eq_true, beq_iff_eq] at h
  rcases h with rfl | rfl
  · exact .of_isAvoided (by decide +kernel)
  · exact .of_isAvoided (by decide +kernel)

/-- Quotes are no digits. -/
lemma isQuote_of_isDigit {c : Char} (digit : isDigit c = true) : isQuote c = false := by
  rw [Bool.eq_false_iff]
  intro quote
  simp [(isMark_of_isQuote quote).digit] at digit

/-- Quotes stand in no word. -/
lemma isQuote_of_continuesWord {c : Char} (continues : continuesWord c = true) :
    isQuote c = false := by
  rw [Bool.eq_false_iff]
  intro quote
  simp [(isMark_of_isQuote quote).continues] at continues

/-- The dot is a mark. -/
lemma isMark_dot : IsMark '.' := .of_isAvoided (by decide +kernel)

/-- The sign that begins a comment is a mark. -/
lemma isMark_hash : IsMark '#' := .of_isAvoided (by decide +kernel)

end Highlight
