import Highlight.Proofs.Boundary
import Highlight.Proofs.Turn
import Mathlib.Data.List.TakeWhile

/-!
# First occurrences

Two forms end at the first occurrence of something: a comment before a newline, a docstring behind
a triple quote. Both can be looked for in the bytes of the text as well as in its characters: what
is looked for is ASCII, and no byte of a longer character is. `Finds` is all that is asked of a
search, `Finds.of_bytes` says what its answer on the bytes of a text means for the text, and
`size_leadingLine` and `size_docstringBody` that the two forms end where such a search says. A look
at one offset of the bytes is a look at the text, too (`Text.isPrefix_drop_bytes_iff`).
-/

namespace Highlight

/-- The first occurrence of `pattern` in a list stands behind `front`. -/
structure FirstBehind {α : Type} (pattern front l : List α) : Prop where
  occurs : front ++ pattern <+: l
  first : ∀ front', front' ++ pattern <+: l → front.length ≤ front'.length

namespace FirstBehind

variable {α : Type} {pattern front front' l : List α}

/-- There is one first occurrence at most. -/
lemma unique (h : FirstBehind pattern front l) (h' : FirstBehind pattern front' l) :
    front = front' := by
  have pre : front <+: l := (List.prefix_append front pattern).trans h.occurs
  have pre' : front' <+: l := (List.prefix_append front' pattern).trans h'.occurs
  have len := Nat.le_antisymm (h.first front' h'.occurs) (h'.first front h.occurs)
  rw [List.prefix_iff_eq_take.1 pre, List.prefix_iff_eq_take.1 pre', len]

/-- What stands at the front occurs there first. -/
lemma nil_of_isPrefix (here : pattern <+: l) : FirstBehind pattern [] l :=
  ⟨here, fun _ _ => Nat.zero_le _⟩

/-- An element that begins no occurrence is passed over. -/
lemma cons {a : α} (not_here : ¬pattern <+: a :: l) (h : FirstBehind pattern front l) :
    FirstBehind pattern (a :: front) (a :: l) := by
  refine ⟨List.cons_prefix_cons.2 ⟨rfl, h.occurs⟩, ?_⟩
  intro front' occurs'
  cases front' with
  | nil => exact absurd occurs' not_here
  | cons b front' => exact Nat.succ_le_succ (h.first front' (List.cons_prefix_cons.1 occurs').2)

end FirstBehind

/-- What occurs has a first occurrence. -/
lemma exists_firstBehind {α : Type} {pattern l : List α} (h : pattern <:+: l) :
    ∃ front, FirstBehind pattern front l := by
  induction l with
  | nil =>
    obtain rfl := List.infix_nil.1 h
    exact ⟨[], .nil_of_isPrefix List.nil_prefix⟩
  | cons a l ih =>
    by_cases here : pattern <+: a :: l
    · exact ⟨[], .nil_of_isPrefix here⟩
    · obtain ⟨front, first⟩ := ih ((List.infix_cons_iff.1 h).resolve_left here)
      exact ⟨a :: front, first.cons here⟩

/-- The answer of a search for `pattern` in a list: the offset of the first occurrence, or nothing
if there is none. -/
inductive Finds {α : Type} (pattern l : List α) : Option Nat → Prop where
  | here {front} :
    FirstBehind pattern front l →
    Finds pattern l (some front.length)
  | nowhere :
    ¬pattern <:+: l →
    Finds pattern l none

/-! ### Characters and bytes -/

namespace Text

@[simp] lemma bytes_nil : bytes [] = [] := rfl

@[simp] lemma bytes_cons (c : Char) (t : Text) :
    bytes (c :: t) = String.utf8EncodeChar c ++ bytes t := List.flatMap_cons

@[simp] lemma bytes_append (s t : Text) : bytes (s ++ t) = bytes s ++ bytes t :=
  List.flatMap_append

/-- The size of a text is the number of its bytes. -/
lemma length_bytes (t : Text) : t.bytes.length = t.size := by
  induction t with
  | nil => rfl
  | cons c t ih => rw [bytes_cons, List.length_append, ih, String.length_utf8EncodeChar, size_cons]

/-- All characters are ASCII. -/
def IsAscii (t : Text) : Prop := ∀ c ∈ t, c.toNat < 128

/-- An ASCII character is one byte. -/
lemma encode_of_ascii {c : Char} (ascii : c.toNat < 128) :
    String.utf8EncodeChar c = [UInt8.ofNat c.toNat] := by
  have le : c.val.toNat ≤ 127 := Nat.le_of_lt_succ ascii
  unfold String.utf8EncodeChar
  exact if_pos le

/-- No byte of a longer character is an ASCII one. -/
lemma le_of_mem_encode {c : Char} (long : 128 ≤ c.toNat) :
    ∀ b ∈ String.utf8EncodeChar c, 128 ≤ b.toNat := by
  have gt : ¬c.val.toNat ≤ 127 := Nat.not_le.2 long
  unfold String.utf8EncodeChar
  dsimp only
  rw [if_neg gt]
  split
  · simp only [List.mem_cons, List.not_mem_nil, or_false, forall_eq_or_imp, forall_eq,
      UInt8.toNat_ofNat']
    omega
  · split
    · simp only [List.mem_cons, List.not_mem_nil, or_false, forall_eq_or_imp, forall_eq,
        UInt8.toNat_ofNat']
      omega
    · simp only [List.mem_cons, List.not_mem_nil, or_false, forall_eq_or_imp, forall_eq,
        UInt8.toNat_ofNat']
      omega

/-- A character whose bytes begin with an ASCII byte is that ASCII character. -/
lemma eq_of_encode_isPrefix {a c : Char} {bs rest : List UInt8} (ascii : a.toNat < 128)
    (h : UInt8.ofNat a.toNat :: bs <+: String.utf8EncodeChar c ++ rest) : c = a ∧ bs <+: rest := by
  have low : (UInt8.ofNat a.toNat).toNat = a.toNat := by
    rw [UInt8.toNat_ofNat']
    omega
  by_cases ascii' : c.toNat < 128
  · rw [encode_of_ascii ascii', List.singleton_append, List.cons_prefix_cons] at h
    have low' : (UInt8.ofNat c.toNat).toNat = c.toNat := by
      rw [UInt8.toNat_ofNat']
      omega
    refine ⟨Char.toNat_inj.1 ?_, h.2⟩
    rw [← low, ← low', h.1]
  · obtain ⟨b, bs', e⟩ := List.exists_cons_of_ne_nil (String.utf8EncodeChar_ne_nil (c := c))
    rw [e, List.cons_append, List.cons_prefix_cons] at h
    have high := le_of_mem_encode (Nat.not_lt.1 ascii') b (by simp [e])
    rw [← h.1, low] at high
    omega

/-- A character that has the byte of an ASCII character is that character. -/
lemma eq_of_mem_encode {a c : Char} (ascii : a.toNat < 128)
    (mem : UInt8.ofNat a.toNat ∈ String.utf8EncodeChar c) : c = a := by
  by_cases ascii' : c.toNat < 128
  · have first : [UInt8.ofNat a.toNat] <+: String.utf8EncodeChar c ++ [] := by
      rw [encode_of_ascii ascii', List.mem_singleton] at mem
      rw [encode_of_ascii ascii', mem]
      exact List.prefix_append _ _
    exact (eq_of_encode_isPrefix ascii first).1
  · have high := le_of_mem_encode (Nat.not_lt.1 ascii') _ mem
    rw [UInt8.toNat_ofNat'] at high
    omega

/-- The byte of an ASCII character stands in no other character. -/
lemma count_encode {a : Char} (ascii : a.toNat < 128) (c : Char) :
    (String.utf8EncodeChar c).count (UInt8.ofNat a.toNat) = if c == a then 1 else 0 := by
  by_cases here : c = a
  · subst here
    rw [encode_of_ascii ascii, List.count_singleton_self, beq_self_eq_true, if_pos rfl]
  · rw [beq_false_of_ne here]
    apply List.count_eq_zero.2
    intro mem
    exact here (eq_of_mem_encode ascii mem)

/-- An ASCII character occurs as often as its byte. -/
lemma count_bytes {a : Char} (ascii : a.toNat < 128) (t : Text) :
    t.bytes.count (UInt8.ofNat a.toNat) = t.count a := by
  induction t with
  | nil => rfl
  | cons c t ih =>
    rw [bytes_cons, List.count_append, ih, count_encode ascii, List.count_cons, Nat.add_comm]

/-- An ASCII pattern stands at the front of the bytes of a text only if it stands at the front of
the text. -/
lemma isPrefix_of_bytes {p t : Text} (ascii : p.IsAscii) (h : p.bytes <+: t.bytes) :
    p <+: t := by
  induction p generalizing t with
  | nil => exact List.nil_prefix
  | cons a p ih =>
    have ascii_a := ascii a List.mem_cons_self
    rw [bytes_cons, encode_of_ascii ascii_a, List.singleton_append] at h
    cases t with
    | nil => exact absurd (List.prefix_nil.1 h) (List.cons_ne_nil _ _)
    | cons c t =>
      obtain ⟨rfl, behind⟩ := eq_of_encode_isPrefix ascii_a h
      have ascii_p : IsAscii p := fun x hx => ascii x (List.mem_cons_of_mem _ hx)
      exact List.cons_prefix_cons.2 ⟨rfl, ih ascii_p behind⟩

/-- Where an ASCII pattern occurs in the bytes of a text, it occurs behind whole characters. -/
lemma exists_front_of_bytes {p t : Text} {front : List UInt8} (ascii : p.IsAscii) (ne : p ≠ [])
    (h : front ++ p.bytes <+: t.bytes) : ∃ f : Text, front = f.bytes ∧ f ++ p <+: t := by
  induction t generalizing front with
  | nil =>
    obtain ⟨a, p, rfl⟩ := List.exists_cons_of_ne_nil ne
    simp [encode_of_ascii (ascii a List.mem_cons_self)] at h
  | cons c t ih =>
    cases front with
    | nil => exact ⟨[], rfl, isPrefix_of_bytes ascii h⟩
    | cons b front =>
      rw [bytes_cons] at h
      -- the pattern cannot begin inside of `c`, whose bytes are none of ASCII if it has several
      have whole : String.utf8EncodeChar c <+: b :: front := by
        rcases List.prefix_or_prefix_of_prefix (List.prefix_append _ (bytes t))
          ((List.prefix_append (b :: front) p.bytes).trans h) with pre | ⟨more, e⟩
        · exact pre
        · cases more with
          | nil =>
            rw [List.append_nil] at e
            exact e ▸ List.prefix_refl _
          | cons x more =>
            exfalso
            obtain ⟨a, p, rfl⟩ := List.exists_cons_of_ne_nil ne
            have ascii_a := ascii a List.mem_cons_self
            have long : 128 ≤ c.toNat := by
              by_contra short
              rw [encode_of_ascii (Nat.not_le.1 short)] at e
              simp at e
            rw [← e, List.append_assoc, List.prefix_append_right_inj, bytes_cons,
              encode_of_ascii ascii_a] at h
            have high := le_of_mem_encode long x (by simp [← e])
            rw [← (List.cons_prefix_cons.1 h).1, UInt8.toNat_ofNat'] at high
            omega
      obtain ⟨front', e⟩ := whole
      rw [← e, List.append_assoc, List.prefix_append_right_inj] at h
      obtain ⟨f, rfl, occurs⟩ := ih h
      exact ⟨c :: f, e.symm, List.cons_prefix_cons.2 ⟨rfl, occurs⟩⟩

/-- Behind a front its bytes are passed over. -/
lemma drop_bytes_append (p s : Text) (n : Nat) :
    (p ++ s).bytes.drop (p.size + n) = s.bytes.drop n := by
  rw [bytes_append, ← length_bytes, ← List.drop_drop, List.drop_left]

/-- From a boundary on, the bytes of a text are those of its rest. -/
lemma drop_bytes {t rest : Text} {n : Nat} (h : t.from? n = some rest) :
    t.bytes.drop n = rest.bytes := by
  obtain ⟨front, rfl, rfl⟩ := exists_front_of_from? h
  exact drop_bytes_append front rest 0

/-- An ASCII pattern stands at an offset of the bytes of a text exactly if it stands at that offset
of the text, which is a boundary then. -/
lemma isPrefix_drop_bytes_iff {p t : Text} {n : Nat} (ascii : p.IsAscii) (ne : p ≠ []) :
    p.bytes <+: t.bytes.drop n ↔ ∃ rest, t.from? n = some (p ++ rest) := by
  constructor
  · intro pre
    have pos : p.size ≠ 0 := fun zero => ne (size_eq_zero.1 zero)
    have inside := pre.length_le
    rw [List.length_drop, length_bytes p] at inside
    have occurs := (List.prefix_append_right_inj (t.bytes.take n)).2 pre
    rw [List.take_append_drop] at occurs
    obtain ⟨front, e, rest, rfl⟩ := exists_front_of_bytes ascii ne occurs
    refine ⟨rest, from?_eq_some.2 ⟨front, List.append_assoc _ _ _, ?_⟩⟩
    rw [← length_bytes, ← e, List.length_take]
    omega
  · rintro ⟨rest, place⟩
    rw [drop_bytes place, bytes_append]
    exact List.prefix_append _ _

/-- Of two fronts of a text the one with fewer characters has fewer bytes. -/
lemma length_le_of_size_le {f g t : Text} (hf : f <+: t) (hg : g <+: t) (le : f.size ≤ g.size) :
    f.length ≤ g.length := by
  obtain ⟨r, rfl⟩ := hf
  obtain ⟨r', e⟩ := hg
  obtain ⟨m, rfl, -⟩ := exists_append_of_size_le e.symm le
  rw [List.length_append]
  exact Nat.le_add_right _ _

/-- The first occurrence in the bytes is the first occurrence in the characters. -/
lemma firstBehind_of_bytes {p t : Text} {front : List UInt8} (ascii : p.IsAscii) (ne : p ≠ [])
    (h : FirstBehind p.bytes front t.bytes) :
    ∃ f : Text, front = f.bytes ∧ FirstBehind p f t := by
  obtain ⟨f, rfl, occurs⟩ := exists_front_of_bytes ascii ne h.occurs
  refine ⟨f, rfl, occurs, ?_⟩
  intro g ⟨rest, e⟩
  have le : (bytes f).length ≤ (bytes g).length := h.first (bytes g) ⟨bytes rest, by simp [← e]⟩
  rw [length_bytes, length_bytes] at le
  exact length_le_of_size_le ((List.prefix_append f p).trans occurs)
    ((List.prefix_append g p).trans ⟨rest, e⟩) le

end Text

/-- What the answer of a search of bytes means for the characters. -/
lemma Finds.of_bytes {p t : Text} {found : Option Nat} (ascii : p.IsAscii) (ne : p ≠ [])
    (h : Finds p.bytes t.bytes found) :
    (∃ f : Text, FirstBehind p f t ∧ found = some f.size) ∨ (¬p <:+: t ∧ found = none) := by
  cases h with
  | here first =>
    obtain ⟨f, rfl, first'⟩ := Text.firstBehind_of_bytes ascii ne first
    exact .inl ⟨f, first', congrArg some (Text.length_bytes f)⟩
  | nowhere not_in =>
    refine .inr ⟨?_, rfl⟩
    rintro ⟨a, b, rfl⟩
    exact not_in ⟨Text.bytes a, Text.bytes b, by simp⟩

/-! ### Forms that end at an occurrence -/

/-- A line goes up to its newline. -/
lemma leadingLine_of_first {t f : Text} (h : FirstBehind ['\n'] f t) : leadingLine t = f := by
  obtain ⟨⟨behind, rfl⟩, first⟩ := h
  have no_newline : ∀ c ∈ f, (c != '\n') = true := by
    intro c mem
    rw [bne_iff_ne]
    rintro rfl
    obtain ⟨a, b, rfl⟩ := List.append_of_mem mem
    have le := first a ⟨b ++ '\n' :: behind, by simp⟩
    rw [List.length_append, List.length_cons] at le
    omega
  unfold leadingLine
  rw [List.append_assoc, List.takeWhile_append_of_pos no_newline]
  simp

/-- A text without a newline is a line. -/
lemma leadingLine_of_not_isInfix {t : Text} (h : ¬['\n'] <:+: t) : leadingLine t = t := by
  refine List.takeWhile_eq_self_iff.2 fun c mem => ?_
  rw [bne_iff_ne]
  rintro rfl
  obtain ⟨a, b, rfl⟩ := List.append_of_mem mem
  exact h ⟨a, b, by simp⟩

/-- A docstring goes through the first triple quote like its own. -/
lemma docstringBody_of_first {q : Char} {t f : Text} (quote : isQuote q = true)
    (h : FirstBehind [q, q, q] f t) : docstringBody q t = ⟨f ++ [q, q, q], .complete⟩ := by
  induction t generalizing f with
  | nil => simpa using List.prefix_nil.1 h.occurs
  | cons c t ih =>
    unfold docstringBody
    split
    · next triple =>
      have nil := h.unique (.nil_of_isPrefix (tripleQuote?_eq_some.1 triple).2)
      subst nil
      rfl
    · next triple =>
      have not_here : ¬[q, q, q] <+: c :: t := fun here =>
        triple (tripleQuote?_eq_some.2 ⟨quote, here⟩)
      cases f with
      | nil => exact absurd h.occurs not_here
      | cons d f =>
        obtain ⟨rfl, occurs⟩ := List.cons_prefix_cons.1 h.occurs
        have first : FirstBehind [q, q, q] f t := by
          refine ⟨occurs, fun g occurs' => ?_⟩
          have le := h.first (d :: g) (List.cons_prefix_cons.2 ⟨rfl, occurs'⟩)
          simpa using le
        rw [ih first]
        rfl

/-- A docstring that no triple quote closes is all of the text. -/
lemma docstringBody_of_not_isInfix {q : Char} {t : Text} (h : ¬[q, q, q] <:+: t) :
    docstringBody q t = ⟨t, .unterminated⟩ := by
  induction t with
  | nil => rfl
  | cons c t ih =>
    unfold docstringBody
    split
    · next triple =>
      exact absurd (tripleQuote?_eq_some.1 triple).2.isInfix h
    · rw [ih fun inner => h (List.infix_cons inner)]
      rfl

/-- Quotes are ASCII. -/
lemma toNat_lt_of_isQuote {q : Char} (quote : isQuote q = true) : q.toNat < 128 := by
  simp only [isQuote, Bool.or_eq_true, beq_iff_eq] at quote
  rcases quote with rfl | rfl
  · decide
  · decide

/-- A line ends where a search of its bytes finds the newline. -/
lemma size_leadingLine {t : Text} {found : Option Nat}
    (h : Finds (Text.bytes ['\n']) t.bytes found) : (leadingLine t).size = found.getD t.size := by
  have ascii : Text.IsAscii ['\n'] := by simp [Text.IsAscii]
  rcases h.of_bytes ascii (List.cons_ne_nil _ _) with ⟨f, first, rfl⟩ | ⟨not_in, rfl⟩
  · rw [leadingLine_of_first first]
    rfl
  · rw [leadingLine_of_not_isInfix not_in]
    rfl

/-- A triple quote is ASCII. -/
lemma isAscii_triple {q : Char} (quote : isQuote q = true) : Text.IsAscii [q, q, q] := by
  have ascii := toNat_lt_of_isQuote quote
  simp [Text.IsAscii, ascii]

/-- A triple quote is three bytes. -/
lemma length_bytes_triple {q : Char} (quote : isQuote q = true) :
    (Text.bytes [q, q, q]).length = 3 := by
  simp [Text.encode_of_ascii (toNat_lt_of_isQuote quote)]

/-- What stands behind a triple quote is three bytes further on. -/
lemma size_triple {q : Char} (t : Text) (quote : isQuote q = true) :
    Text.size (q :: q :: q :: t) = 3 + t.size := by
  rw [← length_bytes_triple quote, Text.length_bytes, ← Text.size_append]
  rfl

/-- The bytes open a docstring exactly where a triple quote stands in the text. -/
lemma opensDocstringAt_iff {source : Text} {n : Nat} :
    opensDocstringAt source n = true ↔
      ∃ q t, isQuote q = true ∧ source.from? n = some (q :: q :: q :: t) := by
  have triple : ∀ q, isQuote q = true →
      ((source.bytes.drop n).take 3 = Text.bytes [q, q, q] ↔
        ∃ t, source.from? n = some (q :: q :: q :: t)) := by
    intro q quote
    have bytes := Text.isPrefix_drop_bytes_iff (t := source) (n := n) (isAscii_triple quote)
      (List.cons_ne_nil _ _)
    rw [List.prefix_iff_eq_take, length_bytes_triple quote] at bytes
    exact eq_comm.trans bytes
  constructor
  · intro h
    simp only [opensDocstringAt, Bool.or_eq_true, beq_iff_eq] at h
    rcases h with single | double
    · obtain ⟨t, place⟩ := (triple '\'' rfl).1 single
      exact ⟨_, t, rfl, place⟩
    · obtain ⟨t, place⟩ := (triple '"' rfl).1 double
      exact ⟨_, t, rfl, place⟩
  · rintro ⟨q, t, quote, place⟩
    have bytes := (triple q quote).2 ⟨t, place⟩
    simp only [isQuote, Bool.or_eq_true, beq_iff_eq] at quote
    simp only [opensDocstringAt, Bool.or_eq_true, beq_iff_eq, bytes]
    rcases quote with rfl | rfl
    · exact .inl rfl
    · exact .inr rfl

/-- The test of the bytes for a triple quote is the test of the characters. -/
lemma isSome_tripleQuote? {source rest : Text} {n : Nat} (place : source.from? n = some rest) :
    (tripleQuote? rest).isSome = opensDocstringAt source n := by
  rw [Bool.eq_iff_iff, opensDocstringAt_iff, Option.isSome_iff_exists]
  constructor
  · rintro ⟨q, triple⟩
    obtain ⟨quote, t, rfl⟩ := tripleQuote?_eq_some.1 triple
    exact ⟨q, t, quote, place⟩
  · rintro ⟨q, t, quote, place'⟩
    obtain rfl := Option.some.inj (place.symm.trans place')
    exact ⟨q, tripleQuote?_eq_some.2 ⟨quote, List.prefix_append [q, q, q] t⟩⟩

/-- The bytes behind a triple quote. -/
lemma drop_bytes_triple {q : Char} (front t : Text) (quote : isQuote q = true) :
    (front ++ q :: q :: q :: t).bytes.drop (front.size + 3) = t.bytes := by
  have place := Text.from?_size (front ++ [q, q, q]) t
  rw [List.append_assoc, Text.size_append, size_triple [] quote] at place
  exact Text.drop_bytes place

/-- A docstring is complete if the bytes close it, and stops three bytes behind the first place
where they do. -/
lemma docstringBody_of_firstBehind_bytes {q : Char} {t : Text} {before : List UInt8}
    (quote : isQuote q = true) (first : FirstBehind (Text.bytes [q, q, q]) before t.bytes) :
    (docstringBody q t).closing = .complete ∧
      (docstringBody q t).text.size = before.length + 3 := by
  obtain ⟨f, rfl, first'⟩ :=
    Text.firstBehind_of_bytes (isAscii_triple quote) (List.cons_ne_nil _ _) first
  rw [docstringBody_of_first quote first', Text.length_bytes]
  refine ⟨rfl, ?_⟩
  rw [Text.size_append, size_triple [] quote, Text.size_nil]

/-- A docstring that the bytes do not close is all of the text. -/
lemma docstringBody_of_not_isInfix_bytes {q : Char} {t : Text}
    (h : ¬Text.bytes [q, q, q] <:+: t.bytes) : docstringBody q t = ⟨t, .unterminated⟩ := by
  apply docstringBody_of_not_isInfix
  rintro ⟨before, behind, rfl⟩
  exact h ⟨Text.bytes before, Text.bytes behind, by rw [Text.bytes_append, Text.bytes_append]⟩

/-- A docstring ends three bytes behind the place where a search of its bytes finds the closing
triple quote. -/
lemma size_docstringBody {q : Char} {t : Text} {found : Option Nat} (quote : isQuote q = true)
    (h : Finds (Text.bytes [q, q, q]) t.bytes found) :
    (docstringBody q t).text.size = (found.map (· + 3)).getD t.size := by
  cases h with
  | here first => exact (docstringBody_of_firstBehind_bytes quote first).2
  | nowhere not_in =>
    rw [docstringBody_of_not_isInfix_bytes not_in]
    rfl

end Highlight
