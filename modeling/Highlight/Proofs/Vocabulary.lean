import Highlight.Lexis.Vocabulary
import Highlight.Proofs.Character
import Mathlib.Data.List.Chain

/-!
# Words of the vocabulary

A search in a sorted table finds what is there, `bisect_of_mem`. The tables of words are sorted, and
all their entries pass the test that comes before the search, so a word is classified by the table
that it stands in (`classify_eq`).
-/

namespace Highlight

/-! ### Search in a sorted table -/

/-- The table is sorted around what is sought: what lies before it comes first and what lies behind
it comes last. -/
def SortedAround {α : Type} (side : α → Ordering) (table : Array α) : Prop :=
  table.toList.Pairwise fun a b => (side b = .lt → side a = .lt) ∧ (side a = .gt → side b = .gt)

/-- What stands before an entry that is too small is too small, and so on behind. -/
lemma SortedAround.of_lt {α : Type} {side : α → Ordering} {table : Array α} {i j : Nat} {a b : α}
    (sorted : SortedAround side table) (lt : i < j) (at_i : table[i]? = some a)
    (at_j : table[j]? = some b) :
    (side b = .lt → side a = .lt) ∧ (side a = .gt → side b = .gt) := by
  obtain ⟨hi, rfl⟩ := Array.getElem?_eq_some_iff.1 at_i
  obtain ⟨hj, rfl⟩ := Array.getElem?_eq_some_iff.1 at_j
  exact List.pairwise_iff_getElem.1 sorted i j hi hj lt

/-- A search finds what stands in the stretch where it looks. -/
lemma bisect_of_getElem? {α : Type} {side : α → Ordering} {table : Array α} {lo hi i : Nat}
    {entry : α} (sorted : SortedAround side table) (at_i : table[i]? = some entry)
    (found : side entry = .eq) (ge : lo ≤ i) (lt : i < hi) (le : hi ≤ table.size) :
    bisect side table lo hi = true := by
  -- an entry that is not the sought one is not at `i`, and `i` lies on the side that is kept
  have ne : ∀ {j other}, table[j]? = some other → side other ≠ .eq → i ≠ j := by
    rintro j other at_j no rfl
    rw [at_i] at at_j
    cases at_j
    exact no found
  fun_induction bisect side table lo hi with
  | case1 lo hi _ mid none =>
    have beyond : table.size ≤ mid := Array.getElem?_eq_none_iff.1 none
    omega
  | case2 lo hi _ mid other at_mid before ih =>
    refine ih ?_ lt le
    have ne_mid := ne at_mid (by simp [before])
    by_contra not_ge
    have before_i := (sorted.of_lt (by omega) at_i at_mid).1 before
    rw [found] at before_i
    cases before_i
  | case3 => rfl
  | case4 lo hi _ mid other at_mid behind ih =>
    refine ih ge ?_ (by omega)
    have ne_mid := ne at_mid (by simp [behind])
    by_contra not_lt
    have behind_i := (sorted.of_lt (by omega) at_mid at_i).2 behind
    rw [found] at behind_i
    cases behind_i
  | case5 lo hi empty => omega

/-- An entry that fits is found. -/
lemma bisect_of_mem {α : Type} {side : α → Ordering} {table : Array α} {entry : α}
    (sorted : SortedAround side table) (mem : entry ∈ table) (found : side entry = .eq) :
    bisect side table 0 table.size = true := by
  obtain ⟨i, lt, rfl⟩ := Array.mem_iff_getElem.1 mem
  exact bisect_of_getElem? sorted (Array.getElem?_eq_getElem lt) found (Nat.zero_le i) lt
    (Nat.le_refl _)

/-! ### The tables of words -/

/-- The entries of a table follow one another in the order of their characters. -/
def IsSorted (table : Array String) : Prop :=
  table.toList.IsChain fun a b => compare a.toList b.toList = .lt

/-- A sorted table is sorted around every word. -/
lemma IsSorted.sortedAround {table : Array String} (sorted : IsSorted table) (word : Text) :
    SortedAround (fun entry => compare entry.toList word) table := by
  have trans : IsTrans String fun a b => compare a.toList b.toList = .lt :=
    ⟨fun _ _ _ => Std.TransCmp.lt_trans⟩
  refine (List.isChain_iff_pairwise.1 sorted).imp fun {a b} lt => ⟨?_, ?_⟩
  · exact Std.TransCmp.lt_trans lt
  · intro behind
    exact Std.OrientedCmp.gt_of_lt (Std.TransCmp.lt_trans (Std.OrientedCmp.lt_of_gt behind) lt)

/-- A search that tells on which side of a word the entries of a sorted table lie tells whether the
word is there. -/
lemma bisect_iff_mem {table : Array String} {side : String → Ordering} {word : Text}
    (sorted : IsSorted table) (places : ∀ entry ∈ table, side entry = compare entry.toList word) :
    bisect side table 0 table.size = true ↔ String.ofList word ∈ table := by
  constructor
  · intro h
    obtain ⟨entry, mem, found⟩ := exists_of_bisect h
    rw [places entry mem] at found
    rw [← Std.LawfulEqCmp.eq_of_compare found, String.ofList_toList]
    exact mem
  · intro mem
    have around : SortedAround side table := by
      apply (sorted.sortedAround word).imp_of_mem
      intro a b mem_a mem_b apart
      rw [places a (Array.mem_toList_iff.1 mem_a), places b (Array.mem_toList_iff.1 mem_b)]
      exact apart
    apply bisect_of_mem around mem
    rw [places _ mem, String.toList_ofList]
    exact Std.ReflCmp.compare_self

/-- A word is found in a sorted table if it stands there. -/
lemma hasWord_iff {table : Array String} (sorted : IsSorted table) (word : Text) :
    hasWord table word = true ↔ String.ofList word ∈ table :=
  bisect_iff_mem sorted fun _ _ => rfl

/-- All tables are sorted. -/
lemma isSorted_tables : IsSorted constants ∧ IsSorted keywords ∧ IsSorted builtins := by
  unfold IsSorted
  decide +kernel

/-- The test before the search lets all entries pass. -/
lemma mayBeReserved_of_mem {word : Text}
    (mem : String.ofList word ∈ constants ++ keywords ++ builtins) :
    mayBeReserved word = true := by
  have all : ((constants ++ keywords ++ builtins).toList.all fun entry =>
      mayBeReserved entry.toList) = true := by decide +kernel
  have pass := List.all_eq_true.1 all _ (Array.mem_toList_iff.2 mem)
  rwa [String.toList_ofList] at pass

/-- The kind of the words of a table, for a word that stands in one. -/
def tableKind? (word : Text) : Option Kind :=
  if String.ofList word ∈ constants then some .constant
  else if String.ofList word ∈ keywords then some .keyword
  else if String.ofList word ∈ builtins then some .builtin
  else none

/-- The searches in the tables find the kind that the tables give. -/
lemma reserved?_eq (word : Text) : reserved? word = tableKind? word := by
  obtain ⟨sorted_constants, sorted_keywords, sorted_builtins⟩ := isSorted_tables
  unfold reserved? tableKind?
  simp only [hasWord_iff sorted_constants, hasWord_iff sorted_keywords, hasWord_iff sorted_builtins]
  cases may : mayBeReserved word with
  | true => rfl
  | false =>
    have absent : String.ofList word ∉ constants ++ keywords ++ builtins := by
      intro mem
      rw [mayBeReserved_of_mem mem] at may
      cases may
    rw [Array.mem_append, Array.mem_append, not_or, not_or] at absent
    obtain ⟨⟨not_constant, not_keyword⟩, not_builtin⟩ := absent
    rw [if_neg not_constant, if_neg not_keyword, if_neg not_builtin]
    rfl

/-- The kind of a word, which is a name if it stands in no table. -/
def wordKind (word : Text) : Kind := (tableKind? word).getD .ident

/-- A word has the kind that the tables give. -/
lemma classify_eq (word : Text) : classify word = wordKind word := by
  rw [classify, reserved?_eq, wordKind]

end Highlight
