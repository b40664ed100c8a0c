import Highlight.Text.Basic
import Mathlib.Tactic.Common

/-!
# Boundaries and slices

A byte offset is a boundary of a text if no character is cut there. Two boundaries in order bound a
slice. The lemmas here turn both notions into concatenations, `from?_eq_some` and `slice?_eq_some`,
so that no later proof looks at bytes. So does `isPrefixOf?_eq_some` for what stands behind a front.
The offsets that are no boundaries are told by `not_isBoundary_iff`.
-/

namespace Highlight.Text

/-- No character of the text is cut at byte `n`. -/
def IsBoundary (t : Text) (n : Nat) : Prop := (t.from? n).isSome

instance (t : Text) (n : Nat) : Decidable (t.IsBoundary n) :=
  inferInstanceAs (Decidable ((t.from? n).isSome = true))

/-- A character of the text is cut at byte `n`. -/
def Cuts (t : Text) (n : Nat) : Prop :=
  ∃ front c behind, t = front ++ c :: behind ∧ size front < n ∧ n < size front + c.utf8Size

/-- What is left behind a given front. -/
lemma isPrefixOf?_eq_some {front t rest : Text} :
    front.isPrefixOf? t = some rest ↔ t = front ++ rest := by
  induction front generalizing t with
  | nil =>
    show some t = some rest ↔ t = rest
    exact Option.some_inj
  | cons c front ih =>
    cases t with
    | nil =>
      show none = some rest ↔ [] = c :: (front ++ rest)
      simp
    | cons d t =>
      show (if c == d then front.isPrefixOf? t else none) = some rest ↔
        d :: t = c :: (front ++ rest)
      by_cases same : c = d
      · simp [same, ih]
      · simp [same, Ne.symm same]

/-- A text that stands at an offset is what a front of that size leaves. -/
lemma exists_front_of_from? {t rest : Text} {n : Nat} (h : t.from? n = some rest) :
    ∃ front, t = front ++ rest ∧ size front = n := by
  fun_induction from? t n with
  | case1 t =>
    cases h
    exact ⟨[], rfl, rfl⟩
  | case2 n => cases h
  | case3 c t n fits ih =>
    obtain ⟨front, rfl, sz⟩ := ih h
    refine ⟨c :: front, rfl, ?_⟩
    rw [size_cons, sz]
    omega
  | case4 c t n fits => cases h

/-- Behind a front there is the rest. -/
lemma from?_size (front rest : Text) : from? (front ++ rest) front.size = some rest := by
  have h := from?_append front rest 0
  rwa [Nat.add_zero, from?_zero] at h

/-- The text from an offset on, as what a front of that size leaves. -/
lemma from?_eq_some {t rest : Text} {n : Nat} :
    t.from? n = some rest ↔ ∃ front, t = front ++ rest ∧ size front = n := by
  refine ⟨exists_front_of_from?, ?_⟩
  rintro ⟨front, rfl, rfl⟩
  exact from?_size front rest

/-- Of two fronts of a text the one of fewer bytes is a front of the other. -/
lemma exists_append_of_size_le {s t s' t' : Text} (h : s ++ t = s' ++ t')
    (le : size s ≤ size s') : ∃ m, s' = s ++ m ∧ t = m ++ t' := by
  rcases List.append_eq_append_iff.1 h with ⟨m, rfl, rfl⟩ | ⟨m, rfl, rfl⟩
  · exact ⟨m, rfl, rfl⟩
  · have nil : m = [] := by
      rw [size_append] at le
      rw [← size_eq_zero]
      omega
    subst nil
    exact ⟨[], by simp, by simp⟩

/-- A boundary lies behind a front of its size. -/
lemma isBoundary_iff {t : Text} {n : Nat} :
    t.IsBoundary n ↔ ∃ front rest, t = front ++ rest ∧ size front = n := by
  rw [IsBoundary, Option.isSome_iff_exists]
  constructor
  · rintro ⟨rest, h⟩
    obtain ⟨front, e, sz⟩ := exists_front_of_from? h
    exact ⟨front, rest, e, sz⟩
  · rintro ⟨front, rest, rfl, rfl⟩
    exact ⟨rest, from?_size front rest⟩

/-- Every front ends at a boundary. -/
lemma isBoundary_size (front rest : Text) : IsBoundary (front ++ rest) front.size :=
  isBoundary_iff.2 ⟨front, rest, rfl, rfl⟩

/-- A boundary is within the text. -/
lemma le_size_of_isBoundary {t : Text} {n : Nat} (h : t.IsBoundary n) : n ≤ t.size := by
  obtain ⟨front, rest, rfl, rfl⟩ := isBoundary_iff.1 h
  rw [size_append]
  exact Nat.le_add_right _ _

/-- The offsets that are no boundaries lie beyond the end or inside a character. -/
lemma not_isBoundary_iff {t : Text} {n : Nat} : ¬t.IsBoundary n ↔ t.size < n ∨ t.Cuts n := by
  constructor
  · intro h
    rw [IsBoundary] at h
    fun_induction from? t n with
    | case1 t => exact absurd rfl h
    | case2 n => exact .inl (Nat.zero_lt_succ n)
    | case3 c t n fits ih =>
      rcases ih h with beyond | ⟨front, d, behind, rfl, gt, lt⟩
      · left
        rw [size_cons]
        omega
      · right
        refine ⟨c :: front, d, behind, rfl, ?_, ?_⟩
        · rw [size_cons]
          omega
        · rw [size_cons]
          omega
    | case4 c t n fits => exact .inr ⟨[], c, t, rfl, Nat.zero_lt_succ n, by simpa using fits⟩
  · rintro (beyond | ⟨front, c, behind, rfl, gt, lt⟩) boundary
    · exact Nat.not_lt.2 (le_size_of_isBoundary boundary) beyond
    · -- a front that ends behind `front` holds all of `c`
      obtain ⟨front', rest, e, rfl⟩ := isBoundary_iff.1 boundary
      obtain ⟨text, rfl, e'⟩ := exists_append_of_size_le e (Nat.le_of_lt gt)
      rw [size_append] at gt lt
      cases text with
      | nil => exact Nat.lt_irrefl _ gt
      | cons d text =>
        obtain ⟨rfl, -⟩ := List.cons.inj e'
        rw [size_cons] at lt
        omega

/-- The slice between a front and what is left behind it. -/
lemma slice?_append (front text behind : Text) :
    slice? (front ++ (text ++ behind)) front.size (front.size + text.size) = some text := by
  have at_start := from?_size front (text ++ behind)
  have at_stop := from?_size (front ++ text) behind
  rw [List.append_assoc, size_append] at at_stop
  simp [slice?, at_start, at_stop]

/-- A slice stands between a front that ends where it starts and the rest behind it. -/
lemma slice?_eq_some {t text : Text} {start stop : Nat} :
    t.slice? start stop = some text ↔
      ∃ front behind, t = front ++ (text ++ behind) ∧ size front = start ∧
        start + text.size = stop := by
  constructor
  · intro h
    unfold slice? at h
    split at h
    · next rest behind at_start at_stop =>
      split at h
      · next le =>
        obtain ⟨front, rfl, rfl⟩ := exists_front_of_from? at_start
        obtain ⟨upto, e, rfl⟩ := exists_front_of_from? at_stop
        obtain ⟨text', rfl, rfl⟩ := exists_append_of_size_le e le
        obtain rfl : text' = text := by simpa using h
        exact ⟨front, behind, rfl, rfl, (size_append front text').symm⟩
      · cases h
    · cases h
  · rintro ⟨front, behind, rfl, rfl, rfl⟩
    exact slice?_append front text behind

/-- A slice that starts behind a front stands at the front of the rest. -/
lemma slice?_size_eq_some {front rest text : Text} {stop : Nat} :
    (front ++ rest).slice? front.size stop = some text ↔
      ∃ behind, rest = text ++ behind ∧ front.size + text.size = stop := by
  constructor
  · intro h
    obtain ⟨front', behind, e, sz, stop⟩ := slice?_eq_some.1 h
    have here := from?_size front rest
    rw [e, ← sz, from?_size] at here
    exact ⟨behind, (Option.some.inj here).symm, stop⟩
  · rintro ⟨behind, rfl, rfl⟩
    exact slice?_append front text behind

/-- A slice does not end before it begins. -/
lemma le_of_slice? {t text : Text} {start stop : Nat} (h : t.slice? start stop = some text) :
    start ≤ stop := by
  obtain ⟨front, behind, -, -, rfl⟩ := slice?_eq_some.1 h
  exact Nat.le_add_right _ _

/-- Two slices, the second from where the first one stops, are one slice. -/
lemma slice?_trans {t s s' : Text} {start mid stop : Nat} (first : t.slice? start mid = some s)
    (second : t.slice? mid stop = some s') : t.slice? start stop = some (s ++ s') := by
  obtain ⟨front, rest, rfl, rfl, rfl⟩ := slice?_eq_some.1 first
  rw [← List.append_assoc, ← size_append] at second
  obtain ⟨behind, rfl, rfl⟩ := slice?_size_eq_some.1 second
  refine slice?_eq_some.2 ⟨front, behind, ?_, rfl, ?_⟩
  · rw [List.append_assoc]
  · rw [size_append, size_append, Nat.add_assoc]

/-- A slice begins and ends at boundaries. -/
lemma isBoundary_of_slice? {t text : Text} {start stop : Nat}
    (h : t.slice? start stop = some text) : t.IsBoundary start ∧ t.IsBoundary stop := by
  obtain ⟨front, behind, rfl, rfl, rfl⟩ := slice?_eq_some.1 h
  refine ⟨isBoundary_size front _, isBoundary_iff.2 ⟨front ++ text, behind, ?_, ?_⟩⟩
  · rw [List.append_assoc]
  · rw [size_append]

end Highlight.Text
