import Highlight.Proofs.Vocabulary

/-!
# Search in tables of ranges

A search by halves finds a range only where the table is sorted around every character. That is so
of a table whose ranges are in order, `Ranges.InOrder`: none is empty, and each one ends before the
next one begins. There the search finds what lies in one of the ranges and nothing else
(`Ranges.InOrder.contains_iff`). All tables of the classes of characters are in order.
-/

namespace Highlight

namespace Ranges

/-- No range is empty, and each one ends before the next one begins. -/
structure InOrder (ranges : Ranges) : Prop where
  nonempty : ∀ range ∈ ranges.toList, range.1 ≤ range.2
  apart : ranges.toList.IsChain fun a b => a.2 < b.1

/-- A range is too low if it ends before the number. -/
lemma side_eq_lt {n : Nat} {range : Nat × Nat} : side n range = .lt ↔ range.2 < n := by
  unfold side
  split_ifs with before behind
  · simp [before]
  · simp [before]
  · simp [before]

/-- A range is too high if it begins behind the number. -/
lemma side_eq_gt {n : Nat} {range : Nat × Nat} (nonempty : range.1 ≤ range.2) :
    side n range = .gt ↔ n < range.1 := by
  unfold side
  split_ifs with before behind
  · simp only [false_iff]
    omega
  · simp [behind]
  · simp [behind]

namespace InOrder

variable {ranges : Ranges}

/-- Each range ends before any later one begins, not only before the next one. -/
lemma pairwise (ordered : ranges.InOrder) : ranges.toList.Pairwise fun a b => a.2 < b.1 := by
  -- what makes the order transitive is that the range in the middle is not empty
  have trans : IsTrans (Nat × Nat) fun a b => a.2 < b.1 ∧ b.1 ≤ b.2 := by
    refine ⟨fun a b c ab bc => ⟨?_, bc.2⟩⟩
    omega
  have chain : ranges.toList.IsChain fun a b => a.2 < b.1 ∧ b.1 ≤ b.2 := by
    apply ordered.apart.imp_of_mem_imp
    intro a b _ mem lt
    exact ⟨lt, ordered.nonempty b mem⟩
  exact (List.isChain_iff_pairwise.1 chain).imp And.left

/-- Whatever the code point, the ranges before it come first and the ranges behind it come last. -/
lemma sortedAround (ordered : ranges.InOrder) (n : Nat) : SortedAround (side n) ranges := by
  apply ordered.pairwise.imp_of_mem
  intro a b mem_a mem_b lt
  have le_a := ordered.nonempty a mem_a
  have le_b := ordered.nonempty b mem_b
  rw [side_eq_lt, side_eq_lt, side_eq_gt le_a, side_eq_gt le_b]
  constructor
  · intro before
    omega
  · intro behind
    omega

/-- The search finds the characters that lie in one of the ranges, and no others. -/
lemma contains_iff (ordered : ranges.InOrder) (c : Char) :
    ranges.contains c = true ↔ ∃ range ∈ ranges, range.1 ≤ c.toNat ∧ c.toNat ≤ range.2 := by
  constructor
  · exact exists_range
  · rintro ⟨range, mem, holds⟩
    exact bisect_of_mem (ordered.sortedAround c.toNat) mem (side_eq_eq.2 holds)

end InOrder

/-- The tables of all classes of characters are in order. -/
lemma inOrder_of_mem {ranges : Ranges}
    (mem : ranges ∈ [whiteSpaceRanges, digitRanges, letterRanges, numeralRanges]) :
    ranges.InOrder := by
  have nonempty : ([whiteSpaceRanges, digitRanges, letterRanges, numeralRanges].all fun ranges =>
      ranges.toList.all fun range => Nat.ble range.1 range.2) = true := by decide +kernel
  have apart : ∀ ranges ∈ [whiteSpaceRanges, digitRanges, letterRanges, numeralRanges],
      ranges.toList.IsChain fun a b => a.2 < b.1 := by decide +kernel
  refine ⟨?_, apart ranges mem⟩
  intro range mem_range
  have le := List.all_eq_true.1 (List.all_eq_true.1 nonempty ranges mem) range mem_range
  exact Nat.le_of_ble_eq_true le

end Ranges

/-! ### Digits -/

/-- The ranges of digits are in order. -/
lemma inOrder_digitRanges : digitRanges.InOrder := Ranges.inOrder_of_mem (by simp)

/-- The first range of digits is the one of the ASCII digits, and no other one holds ASCII. -/
lemma contains_digitRanges_of_ascii {c : Char} (ascii : c.toNat < 128) :
    digitRanges.contains c = true ↔ '0' ≤ c ∧ c ≤ '9' := by
  have others : (digitRanges.toList.all fun range =>
      range == (0x30, 0x39) || Nat.ble 128 range.1) = true := by decide +kernel
  rw [inOrder_digitRanges.contains_iff]
  constructor
  · rintro ⟨range, mem, above, below⟩
    have first := List.all_eq_true.1 others range (Array.mem_toList_iff.2 mem)
    rw [Bool.or_eq_true, beq_iff_eq, Nat.ble_eq] at first
    rcases first with rfl | beyond
    · exact ⟨above, below⟩
    · omega
  · rintro ⟨above, below⟩
    exact ⟨(0x30, 0x39), by simp [digitRanges], above, below⟩

/-- ASCII characters are settled as the table would settle them. -/
lemma isDigit_eq_contains (c : Char) : isDigit c = digitRanges.contains c := by
  unfold isDigit
  split
  · next ascii =>
    rw [Bool.eq_iff_iff, contains_digitRanges_of_ascii ascii]
    simp
  · rfl

/-- The digits are the characters that lie in one of the ranges of the table. The ranges are not
empty and lie one behind the other, so that for every character the ranges before it come first and
the ranges behind it come last: the search misses no digit and finds no other character. That ASCII
characters are settled without it changes no answer. -/
theorem isDigit_iff_mem_range (c : Char) :
    (isDigit c = true ↔ ∃ range ∈ digitRanges, range.1 ≤ c.toNat ∧ c.toNat ≤ range.2) ∧
    isDigit c = digitRanges.contains c ∧
    SortedAround (Ranges.side c.toNat) digitRanges ∧
    digitRanges.InOrder := by
  have ordered := inOrder_digitRanges
  have same := isDigit_eq_contains c
  refine ⟨?_, same, ordered.sortedAround c.toNat, ordered⟩
  rw [same]
  exact ordered.contains_iff c

end Highlight
