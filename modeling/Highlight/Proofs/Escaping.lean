import Highlight.Markup.Entity
import Highlight.Proofs.Occurrence

/-!
# Escaping and its inverse

The search for a reserved byte finds where the first reserved character begins
(`firstReserved?_eq_some_iff`). So escaping writes every character by its entity, `escaped_eq`: that
it copies what stands before that character makes no difference. It is undone by four replacements,
one for each entity, with that of the ampersand last (`unescape_escaped`).
-/

namespace Highlight

/-- The characters that are written as entities. -/
def reservedChars : List Char := ['<', '>', '"', '&']

/-- What holds of all reserved characters holds of each of the four. -/
lemma forall_mem_reservedChars {p : Char → Prop} :
    (∀ c ∈ reservedChars, p c) ↔ p '<' ∧ p '>' ∧ p '"' ∧ p '&' := by
  simp [reservedChars]

/-- Whether a byte is one of a reserved character. -/
def isReservedByte (b : UInt8) : Bool := b == 0x26 || b == 0x3C || b == 0x3E || b == 0x22

/-- A character that is not reserved stands for itself. -/
lemma entity_of_not_mem {c : Char} (h : c ∉ reservedChars) : entity c = [c] := by
  simp only [reservedChars, List.mem_cons, List.not_mem_nil, or_false, not_or] at h
  obtain ⟨lt, gt, quote, amp⟩ := h
  unfold entity
  split
  · exact absurd rfl amp
  · exact absurd rfl lt
  · exact absurd rfl gt
  · exact absurd rfl quote
  · rfl

/-- A text without reserved characters is its own markup. -/
lemma flatMap_entity_of_free {t : Text} (h : ∀ c ∈ t, c ∉ reservedChars) :
    t.flatMap entity = t := by
  induction t with
  | nil => rfl
  | cons c t ih =>
    rw [List.forall_mem_cons] at h
    rw [List.flatMap_cons, entity_of_not_mem h.1, ih h.2, List.singleton_append]

/-! ### The first reserved character -/

/-- The first element with one of two properties is the first of those with one of them. -/
lemma findIdx?_or {α : Type} (p q : α → Bool) (l : List α) :
    l.findIdx? (fun a => p a || q a) = firstOf? (l.findIdx? p) (l.findIdx? q) := by
  induction l with
  | nil => rfl
  | cons a l ih =>
    simp only [List.findIdx?_cons, ih]
    cases p a <;> cases q a <;> cases l.findIdx? p <;> cases l.findIdx? q <;> simp [firstOf?]

/-- The answer of a search for a member of some list: the offset of the first one, or nothing if
there is none. -/
inductive FindsMember {α : Type} (members l : List α) : Option Nat → Prop where
  | here {front a rest} :
    l = front ++ a :: rest →
    a ∈ members →
    (∀ b ∈ front, b ∉ members) →
    FindsMember members l (some front.length)
  | nowhere :
    (∀ a ∈ l, a ∉ members) →
    FindsMember members l none

/-- The first member is where the members of a list begin. -/
lemma FindsMember.eq_findIdx? {α : Type} {members l : List α} {found : Option Nat}
    {p : α → Bool} (finds : FindsMember members l found) (h : ∀ a, p a = true ↔ a ∈ members) :
    found = l.findIdx? p := by
  have other {a : α} (not_mem : a ∉ members) : p a = false :=
    Bool.eq_false_iff.2 (mt (h a).1 not_mem)
  cases finds with
  | nowhere free =>
    exact (List.findIdx?_eq_none_iff.2 fun a mem => other (free a mem)).symm
  | @here front a rest whole mem free =>
    have none : front.findIdx? p = none :=
      List.findIdx?_eq_none_iff.2 fun b mem => other (free b mem)
    rw [whole, List.findIdx?_append, none, List.findIdx?_cons, (h a).2 mem]
    simp

/-- Whatever two searches for the first of some bytes are used, the first of their answers is the
one that is told. -/
lemma firstReserved?_of_finds {t : Text} {tagOrEntity quote : Option Nat}
    (finds : FindsMember [0x26, 0x3C, 0x3E] t.bytes tagOrEntity)
    (finds' : FindsMember [0x22] t.bytes quote) :
    firstReserved? t = firstOf? tagOrEntity quote := by
  rw [finds.eq_findIdx? (p := fun b => b == 0x26 || b == 0x3C || b == 0x3E) (by simp [or_assoc]),
    finds'.eq_findIdx? (p := (· == 0x22)) (by simp)]
  rfl

/-- The two searches for a reserved byte find the first one. -/
lemma firstReserved?_eq (t : Text) : firstReserved? t = t.bytes.findIdx? isReservedByte :=
  (findIdx?_or (fun b => b == 0x26 || b == 0x3C || b == 0x3E) (· == 0x22) t.bytes).symm

/-- A character with a reserved byte is reserved. -/
lemma mem_reservedChars_of_byte {c : Char} {b : UInt8} (mem : b ∈ String.utf8EncodeChar c)
    (reserved : isReservedByte b = true) : c ∈ reservedChars := by
  have ascii : ∀ a ∈ reservedChars, a.toNat < 128 :=
    forall_mem_reservedChars.2 ⟨by decide, by decide, by decide, by decide⟩
  obtain ⟨a, mem_a, rfl⟩ : ∃ a ∈ reservedChars, UInt8.ofNat a.toNat = b := by
    simp only [isReservedByte, Bool.or_eq_true, beq_iff_eq] at reserved
    rcases reserved with ((rfl | rfl) | rfl) | rfl
    · exact ⟨'&', by decide, rfl⟩
    · exact ⟨'<', by decide, rfl⟩
    · exact ⟨'>', by decide, rfl⟩
    · exact ⟨'"', by decide, rfl⟩
  rw [Text.eq_of_mem_encode (ascii a mem_a) mem]
  exact mem_a

/-- The search passes over the characters that are not reserved. -/
lemma firstReserved?_cons (c : Char) (t : Text) :
    firstReserved? (c :: t) =
      if c ∈ reservedChars then some 0 else (firstReserved? t).map (· + c.utf8Size) := by
  rw [firstReserved?_eq, firstReserved?_eq, Text.bytes_cons, List.findIdx?_append]
  split
  · next reserved =>
    have here : ∀ c ∈ reservedChars,
        (String.utf8EncodeChar c).findIdx? isReservedByte = some 0 :=
      forall_mem_reservedChars.2 ⟨rfl, rfl, rfl, rfl⟩
    rw [here c reserved]
    rfl
  · next free =>
    have none : (String.utf8EncodeChar c).findIdx? isReservedByte = none := by
      apply List.findIdx?_eq_none_iff.2
      intro b mem
      rw [Bool.eq_false_iff]
      intro reserved
      exact free (mem_reservedChars_of_byte mem reserved)
    rw [none, String.length_utf8EncodeChar]
    rfl

/-- Nothing is found where no character is reserved. -/
lemma firstReserved?_eq_none_iff {t : Text} :
    firstReserved? t = none ↔ ∀ c ∈ t, c ∉ reservedChars := by
  induction t with
  | nil => exact iff_of_true rfl (List.forall_mem_nil _)
  | cons c t ih =>
    rw [firstReserved?_cons, List.forall_mem_cons, ← ih]
    split
    · next reserved => simp [reserved]
    · next free => simp [free]

/-- The first reserved character of a text is `c`, which stands behind `front`. -/
structure FirstReserved (t front : Text) (c : Char) (rest : Text) : Prop where
  whole : t = front ++ c :: rest
  free : ∀ d ∈ front, d ∉ reservedChars
  reserved : c ∈ reservedChars

/-- The search finds the offset where the first reserved character begins. -/
lemma firstReserved?_eq_some_iff {t : Text} {i : Nat} :
    firstReserved? t = some i ↔ ∃ front c rest, FirstReserved t front c rest ∧ front.size = i := by
  constructor
  · intro h
    induction t generalizing i with
    | nil => cases h
    | cons c t ih =>
      rw [firstReserved?_cons] at h
      split at h
      · next reserved =>
        cases h
        exact ⟨[], c, t, ⟨rfl, List.forall_mem_nil _, reserved⟩, rfl⟩
      · next free =>
        obtain ⟨j, found, rfl⟩ := Option.map_eq_some_iff.1 h
        obtain ⟨front, d, rest, first, rfl⟩ := ih found
        refine ⟨c :: front, d, rest, ⟨congrArg (c :: ·) first.whole, ?_, first.reserved⟩, ?_⟩
        · exact List.forall_mem_cons.2 ⟨free, first.free⟩
        · rw [Text.size_cons, Nat.add_comm]
  · rintro ⟨front, c, rest, ⟨rfl, free, reserved⟩, rfl⟩
    induction front with
    | nil => rw [List.nil_append, firstReserved?_cons, if_pos reserved, Text.size_nil]
    | cons d front ih =>
      rw [List.forall_mem_cons] at free
      rw [List.cons_append, firstReserved?_cons, if_neg free.1, ih free.2, Option.map_some,
        Text.size_cons, Nat.add_comm]

/-- At a boundary a text is divided there. -/
lemma Text.divide_size (front rest : Text) : (front ++ rest).divide front.size = (front, rest) := by
  induction front with
  | nil =>
    cases rest with
    | nil => rfl
    | cons c rest => rw [List.nil_append, size_nil, divide, if_neg (Nat.not_le.2 c.utf8Size_pos)]
  | cons c front ih =>
    rw [List.cons_append, size_cons, divide, if_pos (Nat.le_add_right _ _),
      Nat.add_sub_cancel_left, ih]

/-- A text has a first reserved character or none. -/
lemma free_or_firstReserved (t : Text) :
    (∀ c ∈ t, c ∉ reservedChars) ∨ ∃ front c rest, FirstReserved t front c rest := by
  cases found : firstReserved? t with
  | none => exact .inl (firstReserved?_eq_none_iff.1 found)
  | some i =>
    obtain ⟨front, c, rest, first, -⟩ := firstReserved?_eq_some_iff.1 found
    exact .inr ⟨front, c, rest, first⟩

/-! ### Escaping -/

/-- A text without reserved characters is left as it is. -/
lemma escape_of_free {t : Text} (free : ∀ c ∈ t, c ∉ reservedChars) : escape t = .unchanged t := by
  rw [escape, firstReserved?_eq_none_iff.2 free]

/-- From the first reserved character on, each character is written by its entity. -/
lemma escape_of_firstReserved {t front rest : Text} {c : Char}
    (first : FirstReserved t front c rest) :
    escape t = .changed (front ++ (c :: rest).flatMap entity) := by
  rw [escape, firstReserved?_eq_some_iff.2 ⟨front, c, rest, first, rfl⟩, first.whole]
  dsimp only
  rw [Text.divide_size]

/-- Escaping writes every character by its entity. -/
lemma escaped_eq (t : Text) : escaped t = t.flatMap entity := by
  rcases free_or_firstReserved t with free | ⟨front, c, rest, first⟩
  · rw [escaped, escape_of_free free, flatMap_entity_of_free free]
    rfl
  · rw [escaped, escape_of_firstReserved first, first.whole, List.flatMap_append,
      flatMap_entity_of_free first.free]
    rfl

/-- Texts are escaped apart. -/
lemma escaped_append (s t : Text) : escaped (s ++ t) = escaped s ++ escaped t := by
  rw [escaped_eq, escaped_eq, escaped_eq, List.flatMap_append]

/-- A character is written by its entity. -/
lemma escaped_cons (c : Char) (t : Text) : escaped (c :: t) = entity c ++ escaped t := by
  rw [escaped_eq, escaped_eq, List.flatMap_cons]

/-- A text without reserved characters stands for itself. -/
lemma escaped_of_free {t : Text} (h : ∀ c ∈ t, c ∉ reservedChars) : escaped t = t := by
  rw [escaped_eq, flatMap_entity_of_free h]

/-- No markup of a text holds the characters of tags. -/
lemma not_mem_escaped (t : Text) : ∀ c ∈ escaped t, c ≠ '<' ∧ c ≠ '>' := by
  intro c mem
  rw [escaped_eq, List.mem_flatMap] at mem
  obtain ⟨d, -, mem⟩ := mem
  by_cases reserved : d ∈ reservedChars
  · have all : ∀ d ∈ reservedChars, ((entity d).all fun c => c != '<' && c != '>') = true :=
      forall_mem_reservedChars.2 ⟨rfl, rfl, rfl, rfl⟩
    have ne := List.all_eq_true.1 (all d reserved) c mem
    simpa using ne
  · rw [entity_of_not_mem reserved, List.mem_singleton] at mem
    subst mem
    constructor
    · rintro rfl
      exact reserved (by decide)
    · rintro rfl
      exact reserved (by decide)

/-! ### Replacement -/

/-- Replaces `old` by `new` behind the next `skip` characters, which belong to an occurrence that has
been replaced. -/
def replaceFrom (old new : Text) : Nat → Text → Text
  | _, [] => []
  | skip + 1, _ :: t => replaceFrom old new skip t
  | 0, c :: t =>
    if old.isPrefixOf (c :: t) then new ++ replaceFrom old new (old.length - 1) t
    else c :: replaceFrom old new 0 t

/-- Replaces all occurrences of some text, from left to right, none overlapping another. -/
def replaceAll (old new t : Text) : Text := replaceFrom old new 0 t

/-- Undoes the entities, that of the ampersand last. -/
def unescape (t : Text) : Text :=
  replaceAll "&amp;".toList ['&'] <| replaceAll "&quot;".toList ['"'] <|
    replaceAll "&gt;".toList ['>'] <| replaceAll "&lt;".toList ['<'] t

/-- Characters that were replaced already are passed over. -/
lemma replaceFrom_skip (old new s t : Text) :
    replaceFrom old new s.length (s ++ t) = replaceAll old new t := by
  induction s with
  | nil => rfl
  | cons c s ih => exact ih

/-- An occurrence at the front is replaced. -/
lemma replaceAll_append {old : Text} (new t : Text) (ne : old ≠ []) :
    replaceAll old new (old ++ t) = new ++ replaceAll old new t := by
  obtain ⟨c, s, rfl⟩ := List.exists_cons_of_ne_nil ne
  have here : (c :: s).isPrefixOf (c :: (s ++ t)) = true :=
    List.isPrefixOf_iff_prefix.2 (List.prefix_append (c :: s) t)
  rw [replaceAll, List.cons_append, replaceFrom, if_pos here]
  exact congrArg (new ++ ·) (replaceFrom_skip (c :: s) new s t)

/-- A character that begins no occurrence is kept. -/
lemma replaceAll_cons {old : Text} (new : Text) {c : Char} {t : Text} (not_here : ¬old <+: c :: t) :
    replaceAll old new (c :: t) = c :: replaceAll old new t := by
  rw [replaceAll, replaceFrom, if_neg fun here => not_here (List.isPrefixOf_iff_prefix.1 here)]
  rfl

/-- Whether two texts differ at a place that both have, so that neither is a front of the other. -/
def clash : Text → Text → Bool
  | a :: s, b :: t => a != b || clash s t
  | _, _ => false

/-- Whether no occurrence of `old` begins in a text, whatever follows it. -/
def startsNone (old : Text) : Text → Bool
  | [] => true
  | c :: t => clash old (c :: t) && startsNone old t

/-- Texts that differ are no fronts of one another, whatever follows them. -/
lemma not_prefix_of_clash {s t : Text} (h : clash s t = true) (rest : Text) : ¬s <+: t ++ rest := by
  fun_induction clash s t with
  | case1 a s b t ih =>
    rw [List.cons_append, List.cons_prefix_cons]
    rintro ⟨rfl, pre⟩
    simp only [bne_self_eq_false, Bool.false_or] at h
    exact ih h pre
  | case2 => cases h

/-- A text in which no occurrence begins is kept. -/
lemma replaceAll_of_startsNone {old s : Text} (new t : Text) (h : startsNone old s = true) :
    replaceAll old new (s ++ t) = s ++ replaceAll old new t := by
  induction s with
  | nil => rfl
  | cons c s ih =>
    simp only [startsNone, Bool.and_eq_true] at h
    have not_here : ¬old <+: c :: (s ++ t) := not_prefix_of_clash h.1 t
    rw [List.cons_append, replaceAll_cons new not_here, ih h.2]
    rfl

/-- A code in which no occurrence begins but at the characters that are coded by it: replacement
changes the code of these characters and of no others. -/
lemma replaceAll_flatMap {old new : Text} {e e' : Char → Text} (ne : old ≠ [])
    (h : ∀ c, e c = old ∧ e' c = new ∨ e' c = e c ∧ startsNone old (e c) = true) (t : Text) :
    replaceAll old new (t.flatMap e) = t.flatMap e' := by
  induction t with
  | nil => rfl
  | cons c t ih =>
    rw [List.flatMap_cons, List.flatMap_cons]
    rcases h c with ⟨code, code'⟩ | ⟨same, none⟩
    · rw [code, code', replaceAll_append new _ ne, ih]
    · rw [same, replaceAll_of_startsNone new _ none, ih]

/-! ### Undoing entities -/

/-- How a character stands in markup when the entities of some characters have been undone. -/
def entityBut (undone : List Char) (c : Char) : Text := if c ∈ undone then [c] else entity c

/-- Only an ampersand begins an entity. -/
lemma startsNone_singleton {c : Char} (name : Text) (h : c ≠ '&') :
    startsNone ('&' :: name) [c] = true := by
  simp [startsNone, clash, h.symm]

/-- An entity begins with an ampersand. -/
lemma exists_entity_eq : ∀ r ∈ reservedChars, ∃ name, entity r = '&' :: name := by
  refine forall_mem_reservedChars.2 ⟨?_, ?_, ?_, ?_⟩
  · exact ⟨['l', 't', ';'], rfl⟩
  · exact ⟨['g', 't', ';'], rfl⟩
  · exact ⟨['q', 'u', 'o', 't', ';'], rfl⟩
  · exact ⟨['a', 'm', 'p', ';'], rfl⟩

/-- No entity begins in the code of another character. -/
lemma startsNone_entity {r c : Char} (mem : r ∈ reservedChars) (ne : c ≠ r) :
    startsNone (entity r) (entity c) = true := by
  by_cases reserved : c ∈ reservedChars
  · have all : (reservedChars.all fun r => reservedChars.all fun c =>
        c == r || startsNone (entity r) (entity c)) = true := rfl
    have apart := List.all_eq_true.1 (List.all_eq_true.1 all r mem) c reserved
    simpa [ne] using apart
  · obtain ⟨name, e⟩ := exists_entity_eq r mem
    rw [e, entity_of_not_mem reserved]
    refine startsNone_singleton name ?_
    rintro rfl
    exact reserved (by decide)

/-- Replacing the entity of a character undoes it, as long as no ampersand stands for itself. -/
lemma replaceAll_entity {r : Char} {undone : List Char} (mem : r ∈ reservedChars)
    (amp : '&' ∉ undone) (t : Text) :
    replaceAll (entity r) [r] (t.flatMap (entityBut undone)) =
      t.flatMap (entityBut (r :: undone)) := by
  obtain ⟨name, e⟩ := exists_entity_eq r mem
  refine replaceAll_flatMap (by simp [e]) (fun c => ?_) t
  by_cases done : c ∈ undone
  · refine .inr ⟨by simp [entityBut, done], ?_⟩
    rw [entityBut, if_pos done, e]
    refine startsNone_singleton name ?_
    rintro rfl
    exact amp done
  · by_cases here : c = r
    · subst here
      exact .inl ⟨if_neg done, if_pos List.mem_cons_self⟩
    · refine .inr ⟨by simp [entityBut, done, here], ?_⟩
      rw [entityBut, if_neg done]
      exact startsNone_entity mem here

/-- Escaping is undone by replacing the entities. -/
lemma unescape_escaped (t : Text) : unescape (escaped t) = t := by
  have none : entityBut [] = entity := by
    funext c
    simp [entityBut]
  have all : entityBut ['&', '"', '>', '<'] = fun c => [c] := by
    funext c
    unfold entityBut
    split
    · rfl
    · next free =>
      refine entity_of_not_mem fun mem => free ?_
      simp only [reservedChars, List.mem_cons, List.not_mem_nil, or_false] at mem ⊢
      tauto
  -- the ampersand comes last: until then every one of them begins an entity
  have lt := @replaceAll_entity '<' [] (by decide) (by decide) t
  have gt := @replaceAll_entity '>' ['<'] (by decide) (by decide) t
  have quot := @replaceAll_entity '"' ['>', '<'] (by decide) (by decide) t
  have amp := @replaceAll_entity '&' ['"', '>', '<'] (by decide) (by decide) t
  rw [none] at lt
  calc unescape (escaped t)
    _ = replaceAll (entity '&') ['&'] (replaceAll (entity '"') ['"']
          (replaceAll (entity '>') ['>'] (replaceAll (entity '<') ['<'] (t.flatMap entity)))) := by
        rw [escaped_eq]
        rfl
    _ = t.flatMap (entityBut ['&', '"', '>', '<']) := by rw [lt, gt, quot, amp]
    _ = t := by rw [all, List.flatMap_singleton']

end Highlight
