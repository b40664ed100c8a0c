import Highlight.Proofs.Readings

/-!
# Strings and docstrings at an offset

What the two quoted forms read at any offset of a source, on a boundary or not.

Main facts:

* `Form.readAt_string_iff_grammar`: a string is read to its end exactly where the source goes on
  with a string of the grammar, and otherwise as far as its items go.
* `Form.readAt_docstring_iff_opens`: a docstring is read exactly where the bytes open one, and up to
  the first occurrence of its triple quote in the bytes behind the opening.
-/

namespace Highlight

namespace Text

/-- The character that begins at a byte offset, if one does. -/
def charAt? (t : Text) (n : Nat) : Option Char := (t.from? n).bind List.head?

/-- The character at an offset stands behind as many bytes. -/
lemma charAt?_eq_some {t : Text} {c : Char} {n : Nat} :
    t.charAt? n = some c ↔ ∃ front behind, t = front ++ c :: behind ∧ size front = n := by
  rw [charAt?, Option.bind_eq_some_iff]
  constructor
  · rintro ⟨rest, place, head⟩
    obtain ⟨behind, rfl⟩ := List.head?_eq_some_iff.1 head
    obtain ⟨front, rfl, rfl⟩ := exists_front_of_from? place
    exact ⟨front, behind, rfl, rfl⟩
  · rintro ⟨front, behind, rfl, rfl⟩
    exact ⟨c :: behind, from?_size front _, rfl⟩

end Text

/-! ### Strings -/

/-- A string of the grammar, between quotes `q`, goes from one offset to another. -/
def StringBetween (source : Text) (q : Char) (start stop : Nat) : Prop :=
  ∃ items, StringItems q items ∧ source.slice? start stop = some (q :: items ++ [q])

/-- The text behind a quote is items up to the end of the string. -/
lemma exists_stringBody_eq {q : Char} (t : Text) (quote : isQuote q = true) :
    ∃ items t' taken, t = items ++ t' ∧ StringItems q items ∧ StringEnd q t' taken ∧
      stringBody q t = ⟨items ++ taken.text, taken.closing⟩ := by
  obtain ⟨items, t', taken, rfl, inside, ends⟩ := exists_stringItems q t
  refine ⟨items, t', taken, rfl, inside, ends, ?_⟩
  rw [inside.body_append, ends.body_eq quote]

/-- A string of the grammar is one that a quote closes, and it ends behind that quote. -/
lemma stringBetween_iff {front t : Text} {q : Char} {stop : Nat} (quote : isQuote q = true) :
    StringBetween (front ++ q :: t) q front.size stop ↔
      (stringBody q t).closing = .complete ∧
        front.size + Text.size (q :: (stringBody q t).text) = stop := by
  constructor
  · rintro ⟨items, inside, slice⟩
    obtain ⟨behind, e, rfl⟩ := Text.slice?_size_eq_some.1 slice
    obtain rfl : t = items ++ q :: behind := by simpa using e
    rw [inside.body_append, StringEnd.closed.body_eq quote]
    exact ⟨rfl, rfl⟩
  · rintro ⟨complete, rfl⟩
    obtain ⟨items, t', taken, rfl, inside, ends, body⟩ := exists_stringBody_eq t quote
    rw [body] at complete ⊢
    cases ends with
    | @closed behind =>
      exact ⟨items, inside, Text.slice?_size_eq_some.2 ⟨behind, by simp, rfl⟩⟩
    | broken => cases complete
    | unclosed => cases complete
    | escape => cases complete

/-- The text of a string is never closed and stops at an offset: at a newline that no backslash of
the text escapes, or at the end of the source, where a backslash may be left over. -/
inductive BreaksOff (source : Text) (q : Char) : Text → Nat → Prop where
  | newline {items stop} :
    StringItems q items →
    endsInEscape (q :: items) = false →
    source.charAt? stop = some '\n' →
    BreaksOff source q (q :: items) stop
  | unclosed {items} :
    StringItems q items →
    BreaksOff source q (q :: items) source.size
  | escape {items} :
    StringItems q items →
    endsInEscape (q :: items ++ ['\\']) = true →
    BreaksOff source q (q :: items ++ ['\\']) source.size

/-- A string that no quote closes breaks off. -/
lemma breaksOff_of_unterminated {front t : Text} {q : Char} (quote : isQuote q = true)
    (h : (stringBody q t).closing = .unterminated) :
    BreaksOff (front ++ q :: t) q (q :: (stringBody q t).text)
      (front.size + Text.size (q :: (stringBody q t).text)) := by
  obtain ⟨items, t', taken, rfl, inside, ends, body⟩ := exists_stringBody_eq t quote
  obtain ⟨no_escape, escape⟩ := inside.endsInEscape_eq quote
  rw [body] at h ⊢
  cases ends with
  | closed => cases h
  | @broken behind =>
    rw [List.append_nil]
    refine .newline inside no_escape (Text.charAt?_eq_some.2 ⟨front ++ q :: items, behind, ?_, ?_⟩)
    · rw [List.append_assoc, List.cons_append]
    · rw [Text.size_append]
  | unclosed =>
    rw [List.append_nil, ← Text.size_append]
    exact .unclosed inside
  | escape =>
    rw [← Text.size_append]
    exact .escape inside escape

namespace Form

/-- Where a quote begins, a string is read. -/
lemma readAt_string {front t : Text} {q : Char} (quote : isQuote q = true) :
    Form.string.readAt (front ++ q :: t) front.size =
      .ok ⟨(stringBody q t).cons q,
        (Cursor.mk front.size (q :: t)).advance (q :: (stringBody q t).text)⟩ :=
  (Yields.taken (Text.from?_size front _) (take_string quote)).readAt_eq

/-- Where no quote begins, no string is read, and the error tells the character that does. -/
lemma readAt_string_of_not_isQuote {source : Text} {start : Nat}
    (h : ∀ c ∈ source.charAt? start, isQuote c = false) :
    Form.string.readAt source start =
      .error (.delimiter ⟨start, .quote, (source.charAt? start).toList⟩) := by
  unfold Text.charAt? at h ⊢
  cases place : source.from? start with
  | none => exact (Yields.astray place rfl).readAt_eq
  | some rest =>
    cases rest with
    | nil => exact (Yields.missing place rfl).readAt_eq
    | cons c t =>
      have no_quote : isQuote c = false := h c (by rw [place]; rfl)
      have took : Form.string.take (c :: t) = .error .quote := by
        simp [take, leadingString?, no_quote]
      exact (Yields.missing place took).readAt_eq

/-- A string is not read exactly where the offset is no boundary or no quote begins. -/
lemma readAt_string_eq_error_iff {source : Text} {start : Nat} {e : ReadError} :
    Form.string.readAt source start = .error e ↔
      (¬source.IsBoundary start ∨ ∀ c ∈ source.charAt? start, isQuote c = false) ∧
        e = .delimiter ⟨start, .quote, (source.charAt? start).toList⟩ := by
  constructor
  · intro h
    -- where a quote begins a string is read, closed or not
    have no_quote : ∀ c ∈ source.charAt? start, isQuote c = false := by
      intro c at_start
      by_contra quote
      rw [Bool.not_eq_false] at quote
      obtain ⟨front, t, rfl, rfl⟩ := Text.charAt?_eq_some.1 at_start
      rw [readAt_string quote] at h
      cases h
    rw [readAt_string_of_not_isQuote no_quote] at h
    exact ⟨.inr no_quote, (Except.error.inj h).symm⟩
  · rintro ⟨no_boundary | no_quote, rfl⟩
    · apply readAt_string_of_not_isQuote
      intro c at_start
      obtain ⟨front, t, rfl, rfl⟩ := Text.charAt?_eq_some.1 at_start
      exact absurd (Text.isBoundary_size front _) no_boundary
    · exact readAt_string_of_not_isQuote no_quote

/-- The strings that are read are those of the grammar, at any offset. Where the offset is no
boundary or no quote begins there, the quote is missing, and the error tells the character that
stands there instead. Where a quote begins, the reading is complete and stops at an offset exactly
if a string of the grammar goes up to it, which is so of one offset at most. If it is so of none,
the reading is unterminated: it has taken items up to a newline, which no backslash escapes, or up
to the end of the source, where a backslash may be left over. -/
theorem readAt_string_iff_grammar (source : Text) (start : Nat) :
    (∀ e, Form.string.readAt source start = .error e ↔
      (¬source.IsBoundary start ∨ ∀ c ∈ source.charAt? start, isQuote c = false) ∧
        e = .delimiter ⟨start, .quote, (source.charAt? start).toList⟩) ∧
    ∀ q ∈ source.charAt? start, isQuote q = true →
      ∃ reading, Form.string.readAt source start = .ok reading ∧
        source.slice? start reading.next.offset = some reading.text ∧
        (∀ stop, reading.closing = .complete ∧ reading.next.offset = stop ↔
          StringBetween source q start stop) ∧
        (∀ stop stop', StringBetween source q start stop → StringBetween source q start stop' →
          stop = stop') ∧
        ((∀ stop, ¬StringBetween source q start stop) →
          reading.closing = .unterminated ∧
            BreaksOff source q reading.text reading.next.offset) := by
  refine ⟨fun e => readAt_string_eq_error_iff, ?_⟩
  intro q at_start quote
  obtain ⟨front, t, rfl, rfl⟩ := Text.charAt?_eq_some.1 at_start
  have between : ∀ stop, StringBetween (front ++ q :: t) q front.size stop ↔ _ :=
    fun stop => stringBetween_iff quote
  refine ⟨_, readAt_string quote, ?_, fun stop => (between stop).symm, ?_, ?_⟩
  · have yields := Yields.taken (Text.from?_size front (q :: t)) (take_string quote)
    exact yields.slice? (Text.isBoundary_size front _)
  · intro stop stop' string string'
    exact ((between stop).1 string).2.symm.trans ((between stop').1 string').2
  · intro none
    have unterminated : (stringBody q t).closing = .unterminated := by
      cases closing : (stringBody q t).closing with
      | complete => exact absurd ((between _).2 ⟨closing, rfl⟩) (none _)
      | unterminated => rfl
    exact ⟨unterminated, breaksOff_of_unterminated quote unterminated⟩

/-- A quote behind a backslash closes nothing. -/
theorem readAt_string_escaped_quote :
    Text.charAt? ['"', '\\', '"'] 0 = some '"' ∧ isQuote '"' = true ∧
      (∀ stop, ¬StringBetween ['"', '\\', '"'] '"' 0 stop) ∧
      Form.string.readAt ['"', '\\', '"'] 0 =
        .ok ⟨⟨['"', '\\', '"'], .unterminated⟩, ⟨3, []⟩⟩ ∧
      BreaksOff ['"', '\\', '"'] '"' ['"', '\\', '"'] 3 := by
  have ok : Form.string.readAt ['"', '\\', '"'] 0 =
      .ok ⟨⟨['"', '\\', '"'], .unterminated⟩, ⟨3, []⟩⟩ := by decide
  obtain ⟨reading, ok', -, between, -, breaks⟩ :=
    (readAt_string_iff_grammar ['"', '\\', '"'] 0).2 '"' rfl rfl
  rw [ok] at ok'
  cases ok'
  have none : ∀ stop, ¬StringBetween ['"', '\\', '"'] '"' 0 stop := by
    intro stop string
    cases ((between stop).2 string).1
  exact ⟨rfl, rfl, none, ok, (breaks none).2⟩

end Form

/-! ### Docstrings -/

/-- A triple quote that stands behind an offset occurs in the bytes from there on. -/
lemma exists_occurrence_of_slice? {source : Text} {q : Char} {n stop : Nat} (le : n + 3 ≤ stop)
    (h : source.slice? (stop - 3) stop = some [q, q, q]) :
    ∃ before, before ++ Text.bytes [q, q, q] <+: source.bytes.drop n ∧
      n + before.length + 3 = stop := by
  obtain ⟨front, behind, rfl, sz, -⟩ := Text.slice?_eq_some.1 h
  have within : n ≤ front.bytes.length := by
    rw [Text.length_bytes]
    omega
  refine ⟨front.bytes.drop n, ?_, ?_⟩
  · rw [Text.bytes_append, Text.bytes_append, List.drop_append_of_le_length within,
      ← List.append_assoc]
    exact List.prefix_append _ _
  · rw [List.length_drop, Text.length_bytes]
    omega

/-- The reading of a docstring between triple quotes `q` stops behind the first of them in the bytes
behind its opening. If there is none, it goes to the end of the source. -/
structure StopsAtFirst (source : Text) (start : Nat) (q : Char) (reading : Reading) : Prop where
  opening : source.slice? start (start + 3) = some [q, q, q]
  text : source.slice? start reading.next.offset = some reading.text
  boundary : source.IsBoundary reading.next.offset
  closed : ∀ before, FirstBehind (Text.bytes [q, q, q]) before (source.bytes.drop (start + 3)) →
    reading.closing = .complete ∧ reading.next.offset = start + 3 + before.length + 3
  unclosed : ¬Text.bytes [q, q, q] <:+: source.bytes.drop (start + 3) →
    reading.closing = .unterminated ∧ reading.next.offset = source.size
  earliest : ∀ stop, start + 6 ≤ stop → source.slice? (stop - 3) stop = some [q, q, q] →
    reading.closing = .complete ∧ reading.next.offset ≤ stop

namespace Form

/-- Where a triple quote stands, a docstring is read. -/
lemma readAt_docstring {front t : Text} {q : Char} (quote : isQuote q = true) :
    Form.docstring.readAt (front ++ q :: q :: q :: t) front.size =
      .ok ⟨(((docstringBody q t).cons q).cons q).cons q,
        (Cursor.mk front.size (q :: q :: q :: t)).advance
          (q :: q :: q :: (docstringBody q t).text)⟩ :=
  (Yields.taken (Text.from?_size front _) (take_docstring quote)).readAt_eq

/-- What is read where a triple quote stands stops at the first occurrence of it in the bytes. -/
lemma stopsAtFirst_docstring {front t : Text} {q : Char} {reading : Reading}
    (quote : isQuote q = true)
    (h : Form.docstring.readAt (front ++ q :: q :: q :: t) front.size = .ok reading) :
    StopsAtFirst (front ++ q :: q :: q :: t) front.size q reading := by
  have opening : Text.size [q, q, q] = 3 := size_triple [] quote
  have inside := drop_bytes_triple front t quote
  rw [readAt_docstring quote] at h
  cases h
  have yields := Yields.taken (Text.from?_size front (q :: q :: q :: t)) (take_docstring quote)
  have text := yields.slice? (Text.isBoundary_size front _)
  have closed : ∀ before, FirstBehind (Text.bytes [q, q, q]) before t.bytes →
      (docstringBody q t).closing = .complete ∧
        front.size + Text.size (q :: q :: q :: (docstringBody q t).text) =
          front.size + 3 + before.length + 3 := by
    intro before first
    obtain ⟨complete, size⟩ := docstringBody_of_firstBehind_bytes quote first
    rw [size_triple _ quote, size]
    exact ⟨complete, by omega⟩
  refine ⟨?_, text, (Text.isBoundary_of_slice? text).2, ?_, ?_, ?_⟩
  · exact Text.slice?_size_eq_some.2 ⟨t, rfl, by rw [opening]⟩
  · rw [inside]
    exact closed
  · rw [inside]
    intro none
    have body := docstringBody_of_not_isInfix_bytes none
    refine ⟨congrArg Taken.closing body, ?_⟩
    show front.size + Text.size (q :: q :: q :: (docstringBody q t).text) = _
    rw [body, Text.size_append]
  · intro stop le slice
    obtain ⟨later, occurs, rfl⟩ :=
      exists_occurrence_of_slice? (n := front.size + 3) (by omega) slice
    rw [inside] at occurs
    obtain ⟨before, first⟩ :=
      exists_firstBehind ((List.suffix_append later _).isInfix.trans occurs.isInfix)
    obtain ⟨complete, offset⟩ := closed before first
    have least := first.first later occurs
    exact ⟨complete, offset.trans_le (by omega)⟩

/-- Where no triple quote stands, no docstring is read, and the error tells the three characters
that stand there, as far as there are any. -/
lemma readAt_docstring_of_not_opens {source : Text} {start : Nat}
    (h : opensDocstringAt source start = false) :
    Form.docstring.readAt source start =
      .error (.delimiter ⟨start, .tripleQuote, ((source.from? start).getD []).take 3⟩) := by
  cases place : source.from? start with
  | none => exact (Yields.astray place rfl).readAt_eq
  | some rest =>
    have no_triple : tripleQuote? rest = none := by
      rw [Option.eq_none_iff_forall_ne_some]
      intro q triple
      obtain ⟨quote, t, rfl⟩ := tripleQuote?_eq_some.1 triple
      rw [opensDocstringAt_iff.2 ⟨q, t, quote, place⟩] at h
      cases h
    have took : Form.docstring.take rest = .error .tripleQuote := by
      simp [take, leadingDocstring?, no_triple]
    exact (Yields.missing place took).readAt_eq

/-- The test of the bytes and the reading of a docstring agree at any offset: a docstring is read
exactly where the test succeeds. Where it fails, the triple quote is missing, and the error tells
the three characters at most that begin there, which are none at an offset that is no boundary. A
docstring that is read stops three bytes behind the first occurrence of its triple quote in the
bytes behind its opening, whatever stands before it, or else at the end of the source. -/
theorem readAt_docstring_iff_opens (source : Text) (start : Nat) :
    ((∃ reading, Form.docstring.readAt source start = .ok reading) ↔
      opensDocstringAt source start = true) ∧
    (opensDocstringAt source start = false →
      Form.docstring.readAt source start =
        .error (.delimiter ⟨start, .tripleQuote, ((source.from? start).getD []).take 3⟩)) ∧
    ∀ reading, Form.docstring.readAt source start = .ok reading →
      ∃ q, isQuote q = true ∧ StopsAtFirst source start q reading := by
  have opens : ∀ reading, Form.docstring.readAt source start = .ok reading →
      opensDocstringAt source start = true := by
    intro reading ok
    by_contra closed
    rw [readAt_docstring_of_not_opens (Bool.eq_false_iff.2 closed)] at ok
    cases ok
  refine ⟨⟨?_, ?_⟩, readAt_docstring_of_not_opens, ?_⟩
  · rintro ⟨reading, ok⟩
    exact opens reading ok
  · intro test
    obtain ⟨q, t, quote, place⟩ := opensDocstringAt_iff.1 test
    obtain ⟨front, rfl, rfl⟩ := Text.exists_front_of_from? place
    exact ⟨_, readAt_docstring quote⟩
  · intro reading ok
    obtain ⟨q, t, quote, place⟩ := opensDocstringAt_iff.1 (opens reading ok)
    obtain ⟨front, rfl, rfl⟩ := Text.exists_front_of_from? place
    exact ⟨q, quote, stopsAtFirst_docstring quote ok⟩

/-- A backslash does not keep a triple quote from closing a docstring, and one byte further on none
is opened. -/
theorem readAt_docstring_backslash :
    (∃ q, isQuote q = true ∧ StopsAtFirst ['"', '"', '"', '\\', '"', '"', '"'] 0 q
        ⟨⟨['"', '"', '"', '\\', '"', '"', '"'], .complete⟩, ⟨7, []⟩⟩) ∧
      opensDocstringAt ['"', '"', '"', '\\', '"', '"', '"'] 1 = false ∧
      Form.docstring.readAt ['"', '"', '"', '\\', '"', '"', '"'] 1 =
        .error (.delimiter ⟨1, .tripleQuote, ['"', '"', '\\']⟩) := by
  have ok : Form.docstring.readAt ['"', '"', '"', '\\', '"', '"', '"'] 0 =
      .ok ⟨⟨['"', '"', '"', '\\', '"', '"', '"'], .complete⟩, ⟨7, []⟩⟩ := by decide
  have test : opensDocstringAt ['"', '"', '"', '\\', '"', '"', '"'] 1 = false := by decide
  refine ⟨(readAt_docstring_iff_opens _ 0).2.2 _ ok, test, ?_⟩
  exact (readAt_docstring_iff_opens _ 1).2.1 test

end Form

end Highlight
