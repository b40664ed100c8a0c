import Highlight.Proofs.Rescan

/-!
# Readings at offsets

A form is read at a byte offset of a source, which may lie beyond the end or inside a character.
`Form.Yields` says once what comes of it, and later proofs go by cases on it.

Main facts:

* `Form.readAll_never_derails`: readings in a row go from boundary to boundary and lose nothing
  between them, and from an offset that is no boundary none of them moves.
* `Form.readWith_ignores_front`: a reading never looks behind its offset. More text in front moves
  what comes of it, and that is all. Each way to reckon an end has a lemma of its own: all of them
  are moved together with the place where the reading starts.
-/

namespace Highlight

namespace Form

/-- What comes of reading a form at an offset of a source. -/
inductive Yields (form : Form) (source : Text) (offset : Nat) :
    Except ReadError Reading → Prop where
  | taken {rest taken} :
    source.from? offset = some rest →
    form.take rest = .ok taken →
    Yields form source offset (.ok ⟨taken, (Cursor.mk offset rest).advance taken.text⟩)
  | missing {rest expected} :
    source.from? offset = some rest →
    form.take rest = .error expected →
    Yields form source offset (.error (.delimiter ⟨offset, expected, rest.take expected.length⟩))
  | astray {expected} :
    source.from? offset = none →
    form.delimiter? = some expected →
    Yields form source offset (.error (.delimiter ⟨offset, expected, []⟩))
  | outside :
    source.from? offset = none →
    form.delimiter? = none →
    Yields form source offset (.error (.outside offset))

/-- What is told to come of a reading comes of it, whatever search finds the ends. -/
lemma Yields.readWith_eq {find : ByteSearch} {form : Form} {source : Text} {offset : Nat}
    {outcome : Except ReadError Reading} (h : form.Yields source offset outcome)
    (finds : FindsFirst find) : form.readWith find source offset = outcome := by
  cases h with
  | taken place took => simp [readWith_eq_read finds form place, read, took, Except.mapError]
  | missing place took => simp [readWith_eq_read finds form place, read, took, Except.mapError]
  | astray place delimiter => simp [readWith_of_from? find form place, delimiter]
  | outside place delimiter => simp [readWith_of_from? find form place, delimiter]

/-- What is told to come of a reading comes of it with the plain search. -/
lemma Yields.readAt_eq {form : Form} {source : Text} {offset : Nat}
    {outcome : Except ReadError Reading} (h : form.Yields source offset outcome) :
    form.readAt source offset = outcome :=
  h.readWith_eq findsFirst_firstOffset?

/-- Something comes of every reading. -/
lemma yields_readAt (form : Form) (source : Text) (offset : Nat) :
    form.Yields source offset (form.readAt source offset) := by
  obtain ⟨outcome, yields⟩ : ∃ outcome, form.Yields source offset outcome := by
    cases place : source.from? offset with
    | some rest =>
      cases took : form.take rest with
      | ok taken => exact ⟨_, .taken place took⟩
      | error expected => exact ⟨_, .missing place took⟩
    | none =>
      cases delimiter : form.delimiter? with
      | some expected => exact ⟨_, .astray place delimiter⟩
      | none => exact ⟨_, .outside place delimiter⟩
  rw [yields.readAt_eq]
  exact yields

/-! ### Readings in a row -/

/-- The offset behind a reading: what was read moves it to its end, an error leaves it. -/
def follow (offset : Nat) : Except ReadError Reading → Nat
  | .ok reading => reading.next.offset
  | .error _ => offset

/-- The text that was read, if any. -/
def textRead : Except ReadError Reading → Text
  | .ok reading => reading.text
  | .error _ => []

/-- The error of a form at an offset that is no boundary: a quote is not found there, and the other
forms do not look for one. -/
def refusal (offset : Nat) : Form → ReadError
  | .docstring => .delimiter ⟨offset, .tripleQuote, []⟩
  | .string => .delimiter ⟨offset, .quote, []⟩
  | .whiteSpace | .number | .word | .comment => .outside offset

/-- The readings behind the first one start where it has led. -/
lemma readAll_cons (source : Text) (form : Form) (forms : List Form) (offset : Nat) :
    readAll source (form :: forms) offset =
      (form.readAt source offset ::
          (readAll source forms (follow offset (form.readAt source offset))).1,
        (readAll source forms (follow offset (form.readAt source offset))).2) := by
  rw [readAll]
  cases form.readAt source offset with
  | ok reading => rfl
  | error e => rfl

/-- A reading at a boundary passes over the text that it read. -/
lemma Yields.slice? {form : Form} {source : Text} {offset : Nat}
    {outcome : Except ReadError Reading} (h : form.Yields source offset outcome)
    (boundary : source.IsBoundary offset) :
    source.slice? offset (follow offset outcome) = some (textRead outcome) := by
  obtain ⟨front, rest, rfl, rfl⟩ := Text.isBoundary_iff.1 boundary
  have place := Text.from?_size front rest
  cases h with
  | taken place' took =>
    obtain rfl := Option.some.inj (place.symm.trans place')
    obtain ⟨behind, rfl⟩ := take_isPrefix took
    exact Text.slice?_append front _ behind
  | missing => exact Text.slice?_append front [] rest
  | astray none => cases place.symm.trans none
  | outside none => cases place.symm.trans none

/-- A reading at a boundary is not outside of the text. -/
lemma Yields.ne_outside {form : Form} {source : Text} {offset : Nat}
    {outcome : Except ReadError Reading} (h : form.Yields source offset outcome)
    (boundary : source.IsBoundary offset) (n : Nat) : outcome ≠ .error (.outside n) := by
  rintro rfl
  cases h with
  | outside none =>
    rw [Text.IsBoundary, none] at boundary
    cases boundary

/-- Where there is no boundary nothing is read. -/
lemma readAt_of_not_isBoundary {source : Text} {offset : Nat} (form : Form)
    (h : ¬source.IsBoundary offset) :
    form.readAt source offset = .error (form.refusal offset) := by
  have place : source.from? offset = none := by
    rw [← Option.not_isSome_iff_eq_none]
    exact h
  cases form with
  | docstring => exact (Yields.astray place rfl).readAt_eq
  | string => exact (Yields.astray place rfl).readAt_eq
  | whiteSpace => exact (Yields.outside place rfl).readAt_eq
  | number => exact (Yields.outside place rfl).readAt_eq
  | word => exact (Yields.outside place rfl).readAt_eq
  | comment => exact (Yields.outside place rfl).readAt_eq

/-- Readings in a row from a boundary pass over the texts that they read. -/
lemma slice?_readAll {source : Text} {offset : Nat} (forms : List Form)
    (h : source.IsBoundary offset) :
    source.slice? offset (readAll source forms offset).2 =
      some ((readAll source forms offset).1.flatMap textRead) := by
  induction forms generalizing offset with
  | nil =>
    obtain ⟨front, rest, rfl, rfl⟩ := Text.isBoundary_iff.1 h
    exact Text.slice?_append front [] rest
  | cons form forms ih =>
    rw [readAll_cons, List.flatMap_cons]
    have first := (form.yields_readAt source offset).slice? h
    exact Text.slice?_trans first (ih (Text.isBoundary_of_slice? first).2)

/-- Each reading in a row starts where the one before it has led, and the last offset is where the
last one has led. -/
lemma readAll_eq_zipWith (source : Text) (forms : List Form) (offset : Nat) :
    (readAll source forms offset).1 =
        List.zipWith (fun form n => form.readAt source n) forms
          ((readAll source forms offset).1.scanl follow offset) ∧
      (readAll source forms offset).2 = (readAll source forms offset).1.foldl follow offset := by
  induction forms generalizing offset with
  | nil => exact ⟨rfl, rfl⟩
  | cons form forms ih =>
    obtain ⟨outcomes, last⟩ := ih (follow offset (form.readAt source offset))
    rw [readAll_cons, List.scanl_cons, List.zipWith_cons_cons, List.foldl_cons, ← outcomes]
    exact ⟨rfl, last⟩

/-- Readings in a row from a boundary come to boundaries, and none of them goes back or is outside
of the text. -/
lemma isBoundary_of_readAll {source : Text} {offset : Nat} (forms : List Form)
    (h : source.IsBoundary offset) :
    ((readAll source forms offset).1.scanl follow offset).IsChain (· ≤ ·) ∧
      (∀ n ∈ (readAll source forms offset).1.scanl follow offset, source.IsBoundary n) ∧
      ∀ n, .error (.outside n) ∉ (readAll source forms offset).1 := by
  -- the slice that the first reading passes over ends at a boundary, where the others go on
  induction forms generalizing offset with
  | nil => simpa [readAll] using h
  | cons form forms ih =>
    have yields := form.yields_readAt source offset
    have first := yields.slice? h
    obtain ⟨chain, boundaries, inside⟩ := ih (Text.isBoundary_of_slice? first).2
    rw [readAll_cons, List.scanl_cons]
    refine ⟨?_, ?_, ?_⟩
    · refine List.isChain_cons.2 ⟨?_, chain⟩
      intro n head
      rw [List.head?_scanl] at head
      obtain rfl := Option.some.inj head
      exact Text.le_of_slice? first
    · exact List.forall_mem_cons.2 ⟨h, boundaries⟩
    · intro n mem
      rcases List.mem_cons.1 mem with e | mem
      · exact yields.ne_outside h n e.symm
      · exact inside n mem

/-- Readings in a row from an offset that is no boundary all stay there. -/
lemma readAll_of_not_isBoundary {source : Text} {offset : Nat} (forms : List Form)
    (h : ¬source.IsBoundary offset) :
    readAll source forms offset = (forms.map fun form => .error (form.refusal offset), offset) := by
  induction forms with
  | nil => rfl
  | cons form forms ih =>
    rw [readAll_cons, readAt_of_not_isBoundary form h, follow, ih]
    rfl

/-- Readings in a row never derail. Each starts where the one before it has led. From a boundary
on they come to boundaries only, do not go back or beyond the end, are never outside of the text
and search no bytes that are cut, and the texts that they read make up the source between the first
and the last offset. From an offset beyond the end or inside a character on all of them stay there:
a quote is not found, and the forms without one are outside of the text. -/
theorem readAll_never_derails (source : Text) (forms : List Form) (start : Nat) :
    ∃ outcomes last, readAll source forms start = (outcomes, last) ∧
      outcomes = List.zipWith (fun form n => form.readAt source n) forms
        (outcomes.scanl follow start) ∧
      last = outcomes.foldl follow start ∧
      (source.IsBoundary start →
        (outcomes.scanl follow start).IsChain (· ≤ ·) ∧
        (∀ n ∈ outcomes.scanl follow start, n ≤ source.size ∧ source.IsBoundary n ∧
          ∃ cur, Cursor.at? source n = some cur ∧ cur.Safe source) ∧
        (∀ n, .error (.outside n) ∉ outcomes) ∧
        source.slice? start last = some (outcomes.flatMap textRead)) ∧
      (source.size < start ∨ source.Cuts start →
        outcomes = forms.map (fun form => .error (form.refusal start)) ∧ last = start) := by
  obtain ⟨starts, leads⟩ := readAll_eq_zipWith source forms start
  refine ⟨_, _, rfl, starts, leads, ?_, ?_⟩
  · intro boundary
    obtain ⟨chain, boundaries, inside⟩ := isBoundary_of_readAll forms boundary
    refine ⟨chain, ?_, inside, slice?_readAll forms boundary⟩
    intro n mem
    have here := boundaries n mem
    obtain ⟨rest, place⟩ := Option.isSome_iff_exists.1 here
    have placed : Cursor.at? source n = some ⟨n, rest⟩ := by rw [Cursor.at?, place, Option.map_some]
    exact ⟨Text.le_size_of_isBoundary here, here, _, placed, Cursor.safe_of_at? placed⟩
  · intro astray
    rw [readAll_of_not_isBoundary forms (Text.not_isBoundary_iff.2 astray)]
    exact ⟨rfl, rfl⟩

/-- A letter of two bytes and an unclosed string are read up to the end of their source. From inside
of the letter nothing is read. -/
theorem readAll_at_wide_letter :
    Text.IsBoundary ['é', '"', 'a'] 0 ∧
      (∃ outcomes, readAll ['é', '"', 'a'] [.string, .word, .string] 0 = (outcomes, 4) ∧
        Text.slice? ['é', '"', 'a'] 0 4 = some (outcomes.flatMap textRead)) ∧
      Text.Cuts ['é', '"', 'a'] 1 ∧
      readAll ['é', '"', 'a'] [.string, .word] 1 =
        ([.error (.delimiter ⟨1, .quote, []⟩), .error (.outside 1)], 1) := by
  have boundary : Text.IsBoundary ['é', '"', 'a'] 0 := by decide
  have cuts : Text.Cuts ['é', '"', 'a'] 1 := ⟨[], 'é', ['"', 'a'], rfl, by decide, by decide⟩
  have stop : (readAll ['é', '"', 'a'] [.string, .word, .string] 0).2 = 4 := by decide +kernel
  obtain ⟨outcomes, last, run, -, -, placed, -⟩ :=
    readAll_never_derails ['é', '"', 'a'] [.string, .word, .string] 0
  obtain ⟨outcomes', last', run', -, -, -, astray⟩ :=
    readAll_never_derails ['é', '"', 'a'] [.string, .word] 1
  rw [run] at stop
  obtain rfl : last = 4 := stop
  refine ⟨boundary, ⟨outcomes, run, (placed boundary).2.2.2⟩, cuts, ?_⟩
  obtain ⟨rfl, rfl⟩ := astray (.inr cuts)
  exact run'

end Form

/-! ### More text in front -/

/-- A reading with `n` more bytes before it. -/
def Reading.shift (n : Nat) (reading : Reading) : Reading :=
  ⟨reading.toTaken, reading.next.shift n⟩

/-- An error with `n` more bytes before it. -/
def ReadError.shift (n : Nat) : ReadError → ReadError
  | .outside offset => .outside (n + offset)
  | .delimiter cause => .delimiter { cause with offset := n + cause.offset }

namespace Form

/-- What comes of a reading, with `n` more bytes before it. -/
def shiftOutcome (n : Nat) (outcome : Except ReadError Reading) : Except ReadError Reading :=
  (outcome.map (Reading.shift n)).mapError (ReadError.shift n)

/-- What is moved leads to where it led, moved. -/
lemma follow_shiftOutcome (n offset : Nat) (outcome : Except ReadError Reading) :
    follow (n + offset) (shiftOutcome n outcome) = n + follow offset outcome := by
  cases outcome with
  | ok reading => rfl
  | error e => rfl

end Form

/-- Behind a front the same is cut from a text. -/
lemma Text.slice?_append_front (p s : Text) (start stop : Nat) :
    (p ++ s).slice? (p.size + start) (p.size + stop) = s.slice? start stop := by
  rw [slice?, slice?, from?_append, from?_append]
  simp only [Nat.add_le_add_iff_left]

/-- The places of a text are moved by the text in front. -/
lemma Cursor.at?_append (p s : Text) (i : Nat) :
    at? (p ++ s) (p.size + i) = (at? s i).map (shift p.size) := by
  rw [at?, at?, Text.from?_append, Option.map_map]
  rfl

/-- What lies between two offsets is moved by the text in front. -/
lemma Reading.between_append (p s : Text) (start stop : Nat) (closing : Closing) :
    between (p ++ s) (p.size + start) (p.size + stop) closing =
      Form.shiftOutcome p.size (between s start stop closing) := by
  rw [between, between, Text.slice?_append_front, Cursor.at?_append]
  cases s.slice? start stop with
  | none => rfl
  | some text =>
    cases Cursor.at? s stop with
    | none => rfl
    | some next => rfl

namespace Form

/-- The end of a run is moved: the offset of a character counts from the start, and the end of the
source lies further on. -/
lemma runStop_append (p s : Text) (start : Nat) (fits : Char → Bool) (chars : List (Nat × Char)) :
    runStop (p ++ s) (p.size + start) fits chars = p.size + runStop s start fits chars := by
  unfold runStop
  split
  · rw [Nat.add_assoc]
  · exact Text.size_append p s

/-- The end of a string is moved. -/
lemma stringStop_append (p s : Text) (body : Nat) (quote : Char) (chars : List (Nat × Char)) :
    stringStop (p ++ s) (p.size + body) quote chars =
      (p.size + (stringStop s body quote chars).1, (stringStop s body quote chars).2) := by
  fun_induction stringStop s body quote chars with
  | case1 => rw [stringStop, Text.size_append]
  | case2 i e chars ih => exact ih
  | case3 i chars no_escape =>
    rw [stringStop, if_pos rfl, Nat.add_assoc]
    exact no_escape
  | case4 i chars no_escape other =>
    rw [stringStop, if_neg other, if_pos rfl, Nat.add_assoc, Nat.add_assoc, Nat.add_assoc]
    exact no_escape
  | case5 i c chars no_escape other goes_on ih =>
    rw [stringStop, if_neg other, if_neg goes_on]
    · exact ih
    · exact no_escape

/-- A run of characters is moved by the text in front. -/
lemma readRun_append (fits : Char → Bool) (p s : Text) (i : Nat) :
    readRun fits (p ++ s) (p.size + i) = shiftOutcome p.size (readRun fits s i) := by
  rw [readRun, readRun, Text.from?_append]
  cases s.from? i with
  | none => rfl
  | some rest =>
    dsimp only
    rw [runStop_append, Reading.between_append]

/-- A word is moved by the text in front. -/
lemma readWord_append (p s : Text) (i : Nat) :
    readWord (p ++ s) (p.size + i) = shiftOutcome p.size (readWord s i) := by
  rw [readWord, readWord, Text.from?_append]
  cases s.from? i with
  | none => rfl
  | some rest =>
    dsimp only
    split
    · split
      · rw [runStop_append, Reading.between_append]
      · rw [Reading.between_append]
    · rw [Reading.between_append]

/-- The rest of a line is moved by the text in front: the bytes that are searched are the same. -/
lemma readComment_append (find : ByteSearch) (p s : Text) (i : Nat) :
    readComment find (p ++ s) (p.size + i) = shiftOutcome p.size (readComment find s i) := by
  rw [readComment, readComment, Text.drop_bytes_append]
  split
  · rw [Nat.add_assoc, Reading.between_append]
  · rw [Text.size_append, Reading.between_append]

/-- A docstring is moved by the text in front: its opening and the bytes that are searched are the
same. -/
lemma readDocstring_append (find : ByteSearch) (p s : Text) (i : Nat) :
    readDocstring find (p ++ s) (p.size + i) = shiftOutcome p.size (readDocstring find s i) := by
  unfold readDocstring
  rw [Nat.add_assoc, Text.slice?_append_front, Text.from?_append]
  dsimp only
  split
  · split
    · rw [Text.drop_bytes_append]
      split
      · rw [Nat.add_assoc, Nat.add_assoc, ← Nat.add_assoc (i + 3), Reading.between_append]
      · rw [Text.size_append, Reading.between_append]
    · rfl
  · rfl

/-- A string is moved by the text in front. -/
lemma readString_append (p s : Text) (i : Nat) :
    readString (p ++ s) (p.size + i) = shiftOutcome p.size (readString s i) := by
  unfold readString
  rw [Text.from?_append]
  dsimp only
  split
  · split
    · rw [Nat.add_assoc, Text.from?_append]
      split
      · rw [stringStop_append, Reading.between_append]
      · rfl
    · rfl
  · rfl

/-- A reading by offsets is moved by the text in front, and nothing else in it changes. -/
lemma readWith_append (find : ByteSearch) (form : Form) (p s : Text) (i : Nat) :
    form.readWith find (p ++ s) (p.size + i) = shiftOutcome p.size (form.readWith find s i) := by
  cases form with
  | whiteSpace => exact readRun_append isWhiteSpace p s i
  | docstring => exact readDocstring_append find p s i
  | string => exact readString_append p s i
  | number => exact readRun_append isNumberPart p s i
  | word => exact readWord_append p s i
  | comment => exact readComment_append find p s i

/-- So it is with the plain search. -/
lemma readAt_append (form : Form) (p s : Text) (i : Nat) :
    form.readAt (p ++ s) (p.size + i) = shiftOutcome p.size (form.readAt s i) :=
  readWith_append firstOffset? form p s i

/-- Readings in a row are moved together. -/
lemma readAll_append (forms : List Form) (p s : Text) (i : Nat) :
    readAll (p ++ s) forms (p.size + i) =
      ((readAll s forms i).1.map (shiftOutcome p.size), p.size + (readAll s forms i).2) := by
  induction forms generalizing i with
  | nil => rfl
  | cons form forms ih =>
    rw [readAll_cons, readAll_cons, readAt_append, follow_shiftOutcome, ih]
    rfl

/-- No reading looks behind its offset, with whatever search it goes: read behind a front `p`, a form
yields the same text and the same closing, or finds and expects the same, with all offsets moved by
the bytes of `p`. It is outside of the one text exactly if it is outside of the other. So it is of
readings in a row, and the test for a triple quote does not look behind its offset either. -/
theorem readWith_ignores_front (p s : Text) (i : Nat) :
    (∀ find form, readWith find form (p ++ s) (p.size + i) =
      shiftOutcome p.size (readWith find form s i)) ∧
    (∀ form : Form, form.readAt (p ++ s) (p.size + i) = shiftOutcome p.size (form.readAt s i)) ∧
    (∀ forms, readAll (p ++ s) forms (p.size + i) =
      ((readAll s forms i).1.map (shiftOutcome p.size), p.size + (readAll s forms i).2)) ∧
    opensDocstringAt (p ++ s) (p.size + i) = opensDocstringAt s i := by
  refine ⟨fun find form => readWith_append find form p s i, fun form => readAt_append form p s i,
    fun forms => readAll_append forms p s i, ?_⟩
  unfold opensDocstringAt
  rw [Text.drop_bytes_append]

end Form

end Highlight
