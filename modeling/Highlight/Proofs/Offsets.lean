import Highlight.Proofs.Occurrence

/-!
# Readings by offsets

`Form.readWith` reckons the end of a reading as an offset of the whole source: `start` and the
offset of a character behind it, or of an occurrence in the bytes behind an opening, or the size of
the source. Here it is shown to end where the form does that is taken from the rest of the source
(`Form.readWith_eq_read`), with any search that finds first occurrences (`FindsFirst`). The two loops
over characters keep one invariant: where the characters that are left begin at `n`, they fill the
source from `start + n` on (`Form.runStop_indexedFrom`, `Form.stringStop_indexedFrom`).
-/

namespace Highlight

/-! ### Searches -/

/-- A search that finds the first occurrence of whatever it is asked for. -/
def FindsFirst (find : ByteSearch) : Prop := ∀ pattern bytes, Finds pattern bytes (find pattern bytes)

/-- What stands at the front is found there. -/
lemma Finds.at_start {α : Type} {pattern l : List α} (here : pattern <+: l) :
    Finds pattern l (some 0) := by
  have first : FirstBehind pattern [] l := .nil_of_isPrefix here
  exact .here first

/-- An element that begins no occurrence is passed over by a search. -/
lemma Finds.cons {α : Type} {pattern l : List α} {a : α} {found : Option Nat}
    (not_here : ¬pattern <+: a :: l) (h : Finds pattern l found) :
    Finds pattern (a :: l) (found.map (· + 1)) := by
  cases h with
  | @here front first => exact .here (first.cons not_here)
  | nowhere not_in =>
    refine .nowhere ?_
    intro inside
    exact (List.infix_cons_iff.1 inside).elim not_here not_in

/-- The search offset by offset finds first occurrences. -/
lemma findsFirst_firstOffset? : FindsFirst firstOffset? := by
  intro pattern bytes
  induction bytes with
  | nil =>
    cases pattern with
    | nil => exact .at_start List.nil_prefix
    | cons b pattern => exact .nowhere fun inside => List.cons_ne_nil b _ (List.infix_nil.1 inside)
  | cons b bytes ih =>
    unfold firstOffset?
    split
    · next here => exact .at_start (List.isPrefixOf_iff_prefix.1 here)
    · next other =>
      exact ih.cons fun here => other (List.isPrefixOf_iff_prefix.2 here)

/-! ### Slices -/

/-- Nothing is cut from an offset that is no boundary. -/
lemma Text.slice?_of_from? {t : Text} {start : Nat} (none : t.from? start = none) (stop : Nat) :
    t.slice? start stop = .none := by
  rw [slice?, none]

namespace Reading

/-- What stands at the front of the rest is read up to where it stops. -/
lemma between_eq {front rest text : Text} {stop : Nat} (closing : Closing) (pre : text <+: rest)
    (size : stop = front.size + text.size) :
    between (front ++ rest) front.size stop closing =
      .ok ⟨⟨text, closing⟩, (Cursor.mk front.size rest).advance text⟩ := by
  obtain ⟨behind, rfl⟩ := pre
  have place := Text.from?_size (front ++ text) behind
  rw [List.append_assoc, Text.size_append] at place
  rw [between, size, Text.slice?_append, Cursor.at?, place]
  simp [Cursor.advance]

/-- Nothing is read from an offset that is no boundary. -/
lemma between_of_from? {source : Text} {start : Nat} (none : source.from? start = none) (stop : Nat)
    (closing : Closing) : between source start stop closing = .error (.outside start) := by
  rw [between, Text.slice?_of_from? none]

end Reading

/-- A quote is one byte. -/
lemma size_quote {quote : Char} (quoted : isQuote quote = true) : Text.size [quote] = 1 := by
  rw [← Text.length_bytes, Text.bytes_cons, Text.bytes_nil, List.append_nil,
    Text.encode_of_ascii (toNat_lt_of_isQuote quoted), List.length_singleton]

namespace Form

/-! ### Runs of characters -/

/-- A run stops behind the bytes of its characters. -/
lemma runStop_indexedFrom {source t : Text} {start n : Nat} (fits : Char → Bool)
    (whole : start + n + t.size = source.size) :
    runStop source start fits (t.indexedFrom n) = start + n + Text.size (t.takeWhile fits) := by
  -- the characters from `n` on fill the source, so the fallback is the end of the last one
  induction t generalizing n with
  | nil => exact whole.symm
  | cons c t ih =>
    rw [Text.size_cons] at whole
    cases here : fits c with
    | true =>
      have goes_on : runStop source start fits (Text.indexedFrom n (c :: t)) =
          runStop source start fits (Text.indexedFrom (n + c.utf8Size) t) := by
        simp [runStop, Text.indexedFrom, here]
      rw [goes_on, ih (by omega), List.takeWhile_cons_of_pos here, Text.size_cons]
      omega
    | false =>
      have stops : runStop source start fits (Text.indexedFrom n (c :: t)) = start + n := by
        simp [runStop, Text.indexedFrom, here]
      rw [stops, List.takeWhile_cons_of_neg (by simp [here])]
      rfl

/-- A run of fitting characters is read as it is taken. -/
lemma readRun_eq (fits : Char → Bool) (front rest : Text) :
    readRun fits (front ++ rest) front.size =
      .ok ⟨.plain (rest.takeWhile fits),
        (Cursor.mk front.size rest).advance (rest.takeWhile fits)⟩ := by
  have stop : runStop (front ++ rest) front.size fits rest.indexed =
      front.size + Text.size (rest.takeWhile fits) :=
    runStop_indexedFrom (n := 0) fits (Text.size_append front rest).symm
  rw [readRun, Text.from?_size]
  exact Reading.between_eq .complete (List.takeWhile_prefix fits) stop

/-- A word is read as it is taken. The run behind its first character starts at the size of that
character. -/
lemma readWord_eq (front rest : Text) :
    readWord (front ++ rest) front.size =
      .ok ⟨.plain (leadingWord rest), (Cursor.mk front.size rest).advance (leadingWord rest)⟩ := by
  rw [readWord, Text.from?_size]
  cases rest with
  | nil => exact Reading.between_eq .complete List.nil_prefix rfl
  | cons c t =>
    dsimp only [Text.indexed, Text.indexedFrom, leadingWord]
    split
    · refine Reading.between_eq .complete ?_ ?_
      · exact List.cons_prefix_cons.2 ⟨rfl, List.takeWhile_prefix continuesWord⟩
      · have whole : front.size + (0 + c.utf8Size) + Text.size t = (front ++ c :: t).size := by
          rw [Text.size_append, Text.size_cons]
          omega
        rw [runStop_indexedFrom continuesWord whole, Text.size_cons]
        omega
    · exact Reading.between_eq .complete List.nil_prefix rfl

/-! ### Strings -/

/-- What a character means for the end of a string, unless it is a backslash with another one behind
it. -/
lemma stringStop_cons {source t : Text} {body n : Nat} {quote c : Char}
    (no_escape : ∀ d t', c = '\\' → t = d :: t' → False) :
    stringStop source body quote (Text.indexedFrom n (c :: t)) =
      if c = '\n' then (body + n, .unterminated)
      else if c = quote then (body + n + 1, .complete)
      else stringStop source body quote (t.indexedFrom (n + c.utf8Size)) := by
  rw [Text.indexedFrom, stringStop]
  intro d chars behind backslash
  cases t with
  | nil => cases behind
  | cons d t => exact no_escape d t backslash rfl

/-- A string stops where the string does that is taken behind its opening. -/
lemma stringStop_indexedFrom {source t : Text} {body n : Nat} {quote : Char}
    (quoted : isQuote quote = true) (whole : body + n + t.size = source.size) :
    stringStop source body quote (t.indexedFrom n) =
      (body + n + Text.size (stringBody quote t).text, (stringBody quote t).closing) := by
  fun_induction stringBody quote t generalizing n with
  | case1 =>
    show (source.size, Closing.unterminated) = _
    rw [← whole]
  | case2 c t ih =>
    rw [Text.size_cons, Text.size_cons] at whole
    show stringStop source body quote (Text.indexedFrom (n + '\\'.utf8Size + c.utf8Size) t) = _
    rw [ih (by omega)]
    simp only [Taken.cons, Text.size_cons, Prod.mk.injEq, and_true]
    omega
  | case3 t no_escape =>
    rw [stringStop_cons no_escape, if_pos rfl]
    rfl
  | case4 t no_escape other =>
    rw [stringStop_cons no_escape, if_neg other, if_pos rfl, size_quote quoted]
  | case5 c t no_escape other goes_on ih =>
    rw [Text.size_cons] at whole
    rw [stringStop_cons no_escape, if_neg other, if_neg goes_on, ih (by omega)]
    simp only [Taken.cons, Text.size_cons, Prod.mk.injEq, and_true]
    omega

/-- A string is read as it is taken. -/
lemma readString_eq (front : Text) {quote : Char} (t : Text) (quoted : isQuote quote = true) :
    readString (front ++ quote :: t) front.size =
      .ok ⟨(stringBody quote t).cons quote,
        (Cursor.mk front.size (quote :: t)).advance (quote :: (stringBody quote t).text)⟩ := by
  have body := Text.from?_size (front ++ [quote]) t
  rw [List.append_assoc, Text.size_append, size_quote quoted, List.singleton_append] at body
  have whole : front.size + 1 + 0 + t.size = (front ++ quote :: t).size := by
    rw [Text.size_append, ← List.singleton_append, Text.size_append, size_quote quoted]
    omega
  have stop := stringStop_indexedFrom quoted whole
  rw [readString, Text.from?_size, Option.getD_some]
  dsimp only
  rw [if_pos quoted, body]
  dsimp only [Text.indexed]
  rw [stop]
  refine Reading.between_eq _ (List.cons_prefix_cons.2 ⟨rfl, stringBody_isPrefix quote t⟩) ?_
  rw [← List.singleton_append, Text.size_append, size_quote quoted]
  omega

/-! ### Ends that are searched for -/

/-- The rest of a line is read as it is taken. -/
lemma readComment_eq {find : ByteSearch} (finds : FindsFirst find) (front rest : Text) :
    readComment find (front ++ rest) front.size =
      .ok ⟨.plain (leadingLine rest), (Cursor.mk front.size rest).advance (leadingLine rest)⟩ := by
  have found : Finds (Text.bytes ['\n']) rest.bytes (find [0x0A] rest.bytes) := finds _ _
  have size := size_leadingLine found
  have pre : leadingLine rest <+: rest := List.takeWhile_prefix _
  rw [readComment, Text.drop_bytes (Text.from?_size front rest)]
  cases h : find [0x0A] rest.bytes with
  | none =>
    rw [h] at size
    refine Reading.between_eq .complete pre ?_
    rw [size, Text.size_append]
    rfl
  | some i =>
    rw [h] at size
    refine Reading.between_eq .complete pre ?_
    rw [size]
    rfl

/-- A docstring is read as it is taken. -/
lemma readDocstring_eq {find : ByteSearch} (finds : FindsFirst find) (front : Text) {quote : Char}
    (t : Text) (quoted : isQuote quote = true) :
    readDocstring find (front ++ quote :: quote :: quote :: t) front.size =
      .ok ⟨(((docstringBody quote t).cons quote).cons quote).cons quote,
        (Cursor.mk front.size (quote :: quote :: quote :: t)).advance
          (quote :: quote :: quote :: (docstringBody quote t).text)⟩ := by
  have triple : Text.size [quote, quote, quote] = 3 := size_triple [] quoted
  have opening : (front ++ quote :: quote :: quote :: t).slice? front.size (front.size + 3) =
      some [quote, quote, quote] :=
    Text.slice?_size_eq_some.2 ⟨t, rfl, by rw [triple]⟩
  have known : [quote, quote, quote] = ['\'', '\'', '\''] ∨
      [quote, quote, quote] = ['"', '"', '"'] := by
    simp only [isQuote, Bool.or_eq_true, beq_iff_eq] at quoted
    simpa using quoted
  have pre : quote :: quote :: quote :: (docstringBody quote t).text <+:
      quote :: quote :: quote :: t :=
    (List.prefix_append_right_inj [quote, quote, quote]).2 (docstringBody_isPrefix quote t)
  rw [readDocstring, opening]
  dsimp only
  rw [if_pos known, drop_bytes_triple front t quoted]
  have found := finds (Text.bytes [quote, quote, quote]) t.bytes
  generalize find (Text.bytes [quote, quote, quote]) t.bytes = answer at found ⊢
  cases found with
  | @here before first =>
    obtain ⟨complete, size⟩ := docstringBody_of_firstBehind_bytes quoted first
    have stop : front.size + 3 + before.length + 3 =
        front.size + Text.size (quote :: quote :: quote :: (docstringBody quote t).text) := by
      rw [size_triple _ quoted, size]
      omega
    have read := Reading.between_eq (docstringBody quote t).closing pre stop
    rw [complete] at read
    exact read.trans (by rw [← complete]; rfl)
  | nowhere not_in =>
    have body := docstringBody_of_not_isInfix_bytes not_in
    have stop : (front ++ quote :: quote :: quote :: t).size =
        front.size + Text.size (quote :: quote :: quote :: (docstringBody quote t).text) := by
      rw [body, Text.size_append]
    have read := Reading.between_eq (docstringBody quote t).closing pre stop
    rw [body] at read ⊢
    exact read

/-- Where no triple quote stands in the rest, a docstring is not read. -/
lemma readDocstring_of_none (find : ByteSearch) {front rest : Text}
    (none : tripleQuote? rest = none) :
    readDocstring find (front ++ rest) front.size =
      .error (.delimiter ⟨front.size, .tripleQuote, rest.take 3⟩) := by
  unfold readDocstring
  rw [Text.from?_size, Option.getD_some]
  dsimp only
  split
  · next opening slice =>
    obtain ⟨behind, rfl, -⟩ := Text.slice?_size_eq_some.1 slice
    rw [if_neg]
    rintro (rfl | rfl)
    · cases none
    · cases none
  · rfl

/-! ### All forms -/

/-- At a boundary, a form is read by offsets as it is read from the rest. -/
lemma readWith_eq_read {find : ByteSearch} (finds : FindsFirst find) (form : Form) {source rest : Text}
    {offset : Nat} (place : source.from? offset = some rest) :
    form.readWith find source offset = (form.read ⟨offset, rest⟩).mapError .delimiter := by
  obtain ⟨front, rfl, rfl⟩ := Text.exists_front_of_from? place
  cases form with
  | whiteSpace => exact readRun_eq isWhiteSpace front rest
  | number => exact readRun_eq isNumberPart front rest
  | word => exact readWord_eq front rest
  | comment => exact readComment_eq finds front rest
  | docstring =>
    cases triple : tripleQuote? rest with
    | none =>
      refine (readDocstring_of_none find triple).trans ?_
      simp [read, take, leadingDocstring?, triple, Except.mapError, Delimiter.length]
    | some q =>
      obtain ⟨quote, t, rfl⟩ := tripleQuote?_eq_some.1 triple
      refine (readDocstring_eq finds front t quote).trans ?_
      have took := take_docstring (t := t) quote
      simp [read, took, Except.mapError, Taken.cons]
  | string =>
    show readString (front ++ rest) front.size = _
    cases rest with
    | nil =>
      rw [readString, Text.from?_size]
      rfl
    | cons c t =>
      cases quote : isQuote c with
      | true =>
        rw [readString_eq front t quote, read, take_string quote]
        rfl
      | false =>
        rw [readString, Text.from?_size]
        simp [read, take, leadingString?, quote, Except.mapError, Delimiter.length]

/-- Where the offset is no boundary, a form that begins with a quote finds nothing, and the others
are outside of the text. -/
lemma readWith_of_from? (find : ByteSearch) (form : Form) {source : Text} {offset : Nat}
    (none : source.from? offset = none) :
    form.readWith find source offset =
      match form.delimiter? with
      | some expected => .error (.delimiter ⟨offset, expected, []⟩)
      | .none => .error (.outside offset) := by
  cases form with
  | whiteSpace => simp [readWith, readRun, none, delimiter?]
  | docstring => simp [readWith, readDocstring, Text.slice?_of_from? none, none, delimiter?]
  | string => simp [readWith, readString, none, delimiter?]
  | number => simp [readWith, readRun, none, delimiter?]
  | word => simp [readWith, readWord, none, delimiter?]
  | comment =>
    show readComment find source offset = .error (.outside offset)
    unfold readComment
    split
    · exact Reading.between_of_from? none _ _
    · exact Reading.between_of_from? none _ _

end Form

end Highlight
