import Highlight.Proofs.Escaping

/-!
# Escaped texts

Which texts come of escaping, and what the search for the first reserved character is good for.

Main facts:

* `escape_eq_charwise`: that escaping copies a text up to its first reserved character makes no
  difference, since the search for that character in the bytes finds where it begins.
* `isSafe_iff_escaped_unescape`: an escaped text is safe in markup, the text is read back from it,
  and all safe texts are escaped ones.
-/

namespace Highlight

/-- The characters that are written as entities, each with its entity. -/
def entities : List (Char × String) :=
  [('&', "&amp;"), ('<', "&lt;"), ('>', "&gt;"), ('"', "&quot;")]

/-- How a character stands in markup by the list of entities. -/
def written (c : Char) : Text := ((entities.lookup c).map String.toList).getD [c]

/-- A character is written as the list of entities says. -/
lemma entity_eq_written (c : Char) : entity c = written c := by
  by_cases reserved : c ∈ reservedChars
  · have all : ∀ c ∈ reservedChars, entity c = written c :=
      forall_mem_reservedChars.2 ⟨rfl, rfl, rfl, rfl⟩
    exact all c reserved
  · have unlisted : entities.lookup c = none := by
      apply List.lookup_eq_none_iff.2
      simp only [reservedChars, List.mem_cons, List.not_mem_nil, or_false, not_or] at reserved
      simp [entities, reserved]
    rw [entity_of_not_mem reserved, written, unlisted]
    rfl

/-! ### Character by character -/

/-- A text with a first reserved character is not free of them. -/
lemma FirstReserved.not_free {t front rest : Text} {c : Char}
    (first : FirstReserved t front c rest) : ¬∀ d ∈ t, d ∉ reservedChars := by
  intro free
  apply free c _ first.reserved
  rw [first.whole]
  exact List.mem_append_right front List.mem_cons_self

/-- Escaping a text is writing each of its characters as the list of entities says. It gives the
text itself, unchanged, exactly if none of them is reserved. Otherwise it divides the text where
the search in the bytes says, which is where the first reserved character begins, whatever searches
for the first of some bytes it rests on. As each character is written by itself, so are the parts of
a text. -/
theorem escape_eq_charwise (t : Text) :
    (escape t).html = t.flatMap written ∧
    ((escape t).isUnchanged = true ↔ ∀ c ∈ t, c ∉ reservedChars) ∧
    (escape t = .unchanged t ↔ ∀ c ∈ t, c ∉ reservedChars) ∧
    (firstReserved? t = none ↔ ∀ c ∈ t, c ∉ reservedChars) ∧
    (∀ i, firstReserved? t = some i ↔
      ∃ front c rest, FirstReserved t front c rest ∧ front.size = i ∧
        t.divide i = (front, c :: rest)) ∧
    (∀ tagOrEntity quote, FindsMember [0x26, 0x3C, 0x3E] t.bytes tagOrEntity →
      FindsMember [0x22] t.bytes quote → firstReserved? t = firstOf? tagOrEntity quote) ∧
    ∀ other, (escape (t ++ other)).html = (escape t).html ++ (escape other).html := by
  refine ⟨?_, ?_, ?_, firstReserved?_eq_none_iff, ?_, fun _ _ => firstReserved?_of_finds,
    escaped_append t⟩
  · have same : written = entity := funext fun c => (entity_eq_written c).symm
    rw [same]
    exact escaped_eq t
  · rcases free_or_firstReserved t with free | ⟨front, c, rest, first⟩
    · rw [escape_of_free free]
      exact iff_of_true rfl free
    · rw [escape_of_firstReserved first]
      exact iff_of_false Bool.false_ne_true first.not_free
  · rcases free_or_firstReserved t with free | ⟨front, c, rest, first⟩
    · exact iff_of_true (escape_of_free free) free
    · rw [escape_of_firstReserved first]
      exact iff_of_false Escaped.noConfusion first.not_free
  · intro i
    rw [firstReserved?_eq_some_iff]
    constructor
    · rintro ⟨front, c, rest, first, rfl⟩
      refine ⟨front, c, rest, first, rfl, ?_⟩
      rw [first.whole]
      exact Text.divide_size front (c :: rest)
    · rintro ⟨front, c, rest, first, size, -⟩
      exact ⟨front, c, rest, first, size⟩

/-! ### Safe texts -/

/-- A text that can stand in markup, between tags or between double quotes: it holds no bracket and
no such quote, and every ampersand in it begins an entity. -/
structure IsSafe (html : Text) : Prop where
  lt : '<' ∉ html
  gt : '>' ∉ html
  quote : '"' ∉ html
  amp : ∀ front rest, html = front ++ '&' :: rest → ∃ e ∈ entities, e.2.toList <+: '&' :: rest

namespace IsSafe

/-- The empty text is safe. -/
lemma nil : IsSafe [] := by
  refine ⟨List.not_mem_nil, List.not_mem_nil, List.not_mem_nil, ?_⟩
  intro front rest e
  exact absurd e.symm (by simp)

/-- An entity lies in one of two safe texts. -/
lemma append {s t : Text} (hs : IsSafe s) (ht : IsSafe t) : IsSafe (s ++ t) := by
  refine ⟨?_, ?_, ?_, ?_⟩
  · exact fun mem => (List.mem_append.1 mem).elim hs.lt ht.lt
  · exact fun mem => (List.mem_append.1 mem).elim hs.gt ht.gt
  · exact fun mem => (List.mem_append.1 mem).elim hs.quote ht.quote
  · intro front rest e
    rcases List.append_eq_append_iff.1 e with ⟨front', rfl, e'⟩ | ⟨s', rfl, e'⟩
    · exact ht.amp front' rest e'
    · cases s' with
      | nil => exact ht.amp [] rest e'.symm
      | cons c s' =>
        obtain ⟨rfl, rfl⟩ := List.cons.inj e'
        obtain ⟨entity, mem, pre⟩ := hs.amp front s' rfl
        exact ⟨entity, mem, pre.trans (List.prefix_append ('&' :: s') t)⟩

/-- What is left of a safe text behind some of its characters is safe. -/
lemma of_append {s t : Text} (h : IsSafe (s ++ t)) : IsSafe t := by
  refine ⟨?_, ?_, ?_, ?_⟩
  · exact fun mem => h.lt (List.mem_append_right s mem)
  · exact fun mem => h.gt (List.mem_append_right s mem)
  · exact fun mem => h.quote (List.mem_append_right s mem)
  · rintro front rest rfl
    exact h.amp (s ++ front) rest (List.append_assoc ..).symm

/-- A character that is not reserved is safe. -/
lemma singleton {c : Char} (free : c ∉ reservedChars) : IsSafe [c] := by
  simp only [reservedChars, List.mem_cons, List.not_mem_nil, or_false, not_or] at free
  obtain ⟨lt, gt, quote, amp⟩ := free
  refine ⟨?_, ?_, ?_, ?_⟩
  · simpa using Ne.symm lt
  · simpa using Ne.symm gt
  · simpa using Ne.symm quote
  · intro front rest e
    have mem : '&' ∈ [c] := by simp [e]
    exact absurd (List.mem_singleton.1 mem).symm amp

/-- An entity is safe, since its name holds nothing reserved. -/
lemma of_listed {html name : Text} (listed : ∃ e ∈ entities, e.2.toList = html)
    (code : html = '&' :: name) (plain : ∀ c ∈ name, c ∉ reservedChars) : IsSafe html := by
  have only : ∀ c ∈ reservedChars, c ≠ '&' → c ∉ html := by
    intro c reserved ne mem
    rw [code, List.mem_cons] at mem
    exact mem.elim ne fun mem => plain c mem reserved
  refine ⟨only '<' (by decide) (by decide), only '>' (by decide) (by decide),
    only '"' (by decide) (by decide), ?_⟩
  intro front rest split
  cases front with
  | nil =>
    obtain ⟨e, mem, same⟩ := listed
    refine ⟨e, mem, ?_⟩
    rw [same, split]
    exact List.prefix_refl _
  | cons c front =>
    rw [code] at split
    have second : '&' ∈ name := by simp [(List.cons.inj split).2]
    exact absurd (by decide) (plain '&' second)

end IsSafe

/-- What is listed as an entity is the entity of a reserved character. -/
lemma entity_of_mem_entities {e : Char × String} (mem : e ∈ entities) :
    e.1 ∈ reservedChars ∧ entity e.1 = e.2.toList := by
  simp only [entities, List.mem_cons, List.not_mem_nil, or_false] at mem
  rcases mem with rfl | rfl | rfl | rfl
  · exact ⟨by decide, rfl⟩
  · exact ⟨by decide, rfl⟩
  · exact ⟨by decide, rfl⟩
  · exact ⟨by decide, rfl⟩

/-- The entity of a reserved character is listed and holds nothing reserved behind its ampersand. -/
lemma exists_listed : ∀ c ∈ reservedChars, (∃ e ∈ entities, e.2.toList = entity c) ∧
    ∃ name, entity c = '&' :: name ∧ (name.all fun d => !reservedChars.contains d) = true := by
  refine forall_mem_reservedChars.2 ⟨?_, ?_, ?_, ?_⟩
  · exact ⟨⟨('<', "&lt;"), by simp [entities], rfl⟩, ['l', 't', ';'], rfl, rfl⟩
  · exact ⟨⟨('>', "&gt;"), by simp [entities], rfl⟩, ['g', 't', ';'], rfl, rfl⟩
  · exact ⟨⟨('"', "&quot;"), by simp [entities], rfl⟩, ['q', 'u', 'o', 't', ';'], rfl, rfl⟩
  · exact ⟨⟨('&', "&amp;"), by simp [entities], rfl⟩, ['a', 'm', 'p', ';'], rfl, rfl⟩

/-- Every character is written safely. -/
lemma isSafe_entity (c : Char) : IsSafe (entity c) := by
  by_cases reserved : c ∈ reservedChars
  · obtain ⟨listed, name, code, plain⟩ := exists_listed c reserved
    apply IsSafe.of_listed listed code
    intro d mem
    have free := List.all_eq_true.1 plain d mem
    simpa using free
  · rw [entity_of_not_mem reserved]
    exact .singleton reserved

/-- Escaped texts are safe. -/
lemma isSafe_escaped (t : Text) : IsSafe (escaped t) := by
  induction t with
  | nil => exact .nil
  | cons c t ih =>
    rw [escaped_cons]
    exact (isSafe_entity c).append ih

/-- Safe texts are escaped ones: each begins with an entity or with a character that is not
reserved, and goes on with a safe text. -/
lemma exists_escaped_of_isSafe {html : Text} (safe : IsSafe html) : ∃ t, escaped t = html := by
  induction length : html.length using Nat.strongRecOn generalizing html with
  | ind n ih =>
    subst length
    cases html with
    | nil => exact ⟨[], rfl⟩
    | cons c rest =>
      by_cases amp : c = '&'
      · subst amp
        obtain ⟨e, mem, rest', split⟩ := safe.amp [] rest rfl
        obtain ⟨reserved, code⟩ := entity_of_mem_entities mem
        rw [← split] at safe
        have shorter : rest'.length < ('&' :: rest).length := by
          obtain ⟨name, begins⟩ := exists_entity_eq e.1 reserved
          rw [← split, ← code, begins, List.length_append, List.length_cons]
          omega
        obtain ⟨t, rfl⟩ := ih _ shorter safe.of_append rfl
        refine ⟨e.1 :: t, ?_⟩
        rw [escaped_cons, code, split]
      · have free : c ∉ reservedChars := by
          have lt := safe.lt
          have gt := safe.gt
          have quote := safe.quote
          rw [List.mem_cons, not_or] at lt gt quote
          simp [reservedChars, amp, Ne.symm lt.1, Ne.symm gt.1, Ne.symm quote.1]
        obtain ⟨t, rfl⟩ := ih _ (Nat.lt_succ_self _) (IsSafe.of_append (s := [c]) safe) rfl
        refine ⟨c :: t, ?_⟩
        rw [escaped_cons, entity_of_not_mem free, List.singleton_append]

/-- An escaped text is safe, and the text is read back by undoing the entities one after the other.
No other texts are safe: a text is so exactly if escaping what is read from it gives it back. -/
theorem isSafe_iff_escaped_unescape (t : Text) :
    IsSafe (escaped t) ∧ unescape (escaped t) = t ∧
      ∀ html, IsSafe html ↔ escaped (unescape html) = html := by
  refine ⟨isSafe_escaped t, unescape_escaped t, ?_⟩
  intro html
  constructor
  · intro safe
    obtain ⟨s, rfl⟩ := exists_escaped_of_isSafe safe
    rw [unescape_escaped]
  · intro e
    rw [← e]
    exact isSafe_escaped _

end Highlight
