import Highlight.Lexis.Scan
import Highlight.Proofs.Character

/-!
# The turns of a scan

One step of a scan takes one of ten turns, by the character at hand and sometimes the one behind
it. `Cursor.Turn` lists them with the tests that tell them apart, and `Cursor.step_turn` says that a
step at a character always succeeds and takes one of them. All that is known of a step is derived
from this list: later proofs go by cases on the turn and do not open `Cursor.dispatch` again.

`Cursor.Leads` is the shape that all turns share: lexemes that lead from one place to another, each
of them some text at the front of the rest where it begins.
-/

namespace Highlight

namespace Cursor

/-- What a step does at a place whose next character is `c`. -/
inductive Turn (cur : Cursor) (c : Char) : Step → Prop where
  | whiteSpace :
    isWhiteSpace c = true →
    Turn cur c (cur.take .whitespace (leadingWhiteSpace cur.rest))
  | docstring {t} :
    isQuote c = true →
    cur.rest = c :: c :: c :: t →
    Turn cur c (cur.take
      (if (docstringBody c t).closing = .complete then .docstring else .unterminatedDocstring)
      (c :: c :: c :: (docstringBody c t).text))
  | string {t} :
    isQuote c = true →
    cur.rest = c :: t →
    tripleQuote? cur.rest = none →
    Turn cur c (cur.take
      (if (stringBody c t).closing = .complete then .string else .unterminatedString)
      (c :: (stringBody c t).text))
  | number :
    isDigit c = true →
    Turn cur c (cur.take .number (leadingNumber cur.rest))
  | word {t} :
    startsWord c = true →
    isDigit c = false →
    cur.rest = c :: t →
    Turn cur c (cur.take (classify (leadingWord cur.rest)) (leadingWord cur.rest))
  | stalled :
    isWhiteSpace c = false →
    isDigit c = false →
    continuesWord c = true →
    startsWord c = false →
    Turn cur c (cur.take .stalled [c])
  | fraction {d t} :
    c = '.' →
    cur.rest = c :: d :: t →
    isDigit d = true →
    Turn cur c (cur.take .number (c :: leadingNumber (d :: t)))
  | member {t} :
    c = '.' →
    cur.rest = c :: t →
    (∀ d ∈ t.head?, isDigit d = false) →
    Turn cur c
      ⟨cur.lexeme .punct [c] :: ((cur.advance [c]).take .ident (leadingWord t)).lexemes,
        (cur.advance [c]).advance (leadingWord t)⟩
  | comment :
    c = '#' →
    Turn cur c (cur.take .comment (leadingLine cur.rest))
  | punct :
    isWhiteSpace c = false →
    isQuote c = false →
    isDigit c = false →
    continuesWord c = false →
    c ≠ '.' →
    c ≠ '#' →
    Turn cur c (cur.take .punct [c])

/-- A stretch that is not empty becomes one lexeme. -/
@[simp] lemma take_lexemes (cur : Cursor) (kind : Kind) {text : Text} (ne : text ≠ []) :
    (cur.take kind text).lexemes = [cur.lexeme kind text] := by
  simp [take, ne]

/-- A step goes on behind what it took. -/
@[simp] lemma take_next (cur : Cursor) (kind : Kind) (text : Text) :
    (cur.take kind text).next = cur.advance text := rfl

/-- A place behind some text lies further on. -/
lemma offset_lt_advance (cur : Cursor) {text : Text} (ne : text ≠ []) :
    cur.offset < (cur.advance text).offset := by
  have pos : text.size ≠ 0 := fun h => ne (Text.size_eq_zero.1 h)
  simp only [advance]
  omega

/-- A form that can be read is taken as it was read. -/
lemma takeForm_eq {cur : Cursor} {form : Form} {taken : Taken} (kind : Reading → Kind)
    (h : form.take cur.rest = .ok taken) :
    cur.takeForm form kind = .ok (cur.take (kind ⟨taken, cur.advance taken.text⟩) taken.text) := by
  simp [takeForm, Form.read, h]

end Cursor

/-- A triple quote stands at the front of a text exactly if one quote stands there three times. -/
lemma tripleQuote?_eq_some {t : Text} {q : Char} :
    tripleQuote? t = some q ↔ isQuote q = true ∧ [q, q, q] <+: t := by
  fun_cases tripleQuote? t with
  | case1 a b c t h =>
    simp only [Bool.and_eq_true, beq_iff_eq] at h
    obtain ⟨⟨quote, rfl⟩, rfl⟩ := h
    simp only [Option.some.injEq, List.cons_prefix_cons, List.nil_prefix, and_true, and_self]
    constructor
    · rintro rfl
      exact ⟨quote, rfl⟩
    · rintro ⟨-, e⟩
      exact e.symm
  | case2 a b c t h =>
    simp only [reduceCtorEq, List.cons_prefix_cons, List.nil_prefix, and_true, false_iff]
    rintro ⟨quote, rfl, rfl, rfl⟩
    simp [quote] at h
  | case3 t short =>
    simp only [reduceCtorEq, false_iff, not_and]
    rintro - ⟨rest, e⟩
    exact short q q q rest e.symm

/-- A string is taken at a quote. -/
lemma take_string {c : Char} {t : Text} (quote : isQuote c = true) :
    Form.string.take (c :: t) = .ok ((stringBody c t).cons c) := by
  simp [Form.take, leadingString?, quote]

/-- A docstring is taken at three quotes. -/
lemma take_docstring {c : Char} {t : Text} (quote : isQuote c = true) :
    Form.docstring.take (c :: c :: c :: t) =
      .ok ((((docstringBody c t).cons c).cons c).cons c) := by
  have triple : tripleQuote? (c :: c :: c :: t) = some c :=
    tripleQuote?_eq_some.2 ⟨quote, List.prefix_append [c, c, c] t⟩
  simp [Form.take, leadingDocstring?, triple]

/-- What can begin a word can stand in it. -/
lemma continuesWord_of_startsWord {c : Char} (h : startsWord c = true) :
    continuesWord c = true := by
  simp only [startsWord, continuesWord, isAlphanumeric, Bool.or_eq_true] at h ⊢
  tauto

/-- No word is taken where none can begin. -/
lemma leadingWord_of_not_startsWord {t : Text} (h : ∀ c ∈ t.head?, startsWord c = false) :
    leadingWord t = [] := by
  cases t with
  | nil => rfl
  | cons c t => simp [leadingWord, h c rfl]

namespace Cursor

/-- A dot either begins a number or stands alone before a member, which may be missing. -/
lemma takeDot_turn {cur : Cursor} {t : Text} (rest : cur.rest = '.' :: t) :
    Turn cur '.' cur.takeDot := by
  have behind : (cur.advance ['.']).rest = t := by simp [advance, rest]
  unfold takeDot
  dsimp only
  rw [behind]
  cases t with
  | nil =>
    rw [if_neg (by simp)]
    exact .member rfl rest (by simp)
  | cons d t =>
    split
    · next digit =>
      exact .fraction rfl rest (by simpa using digit)
    · next digit =>
      exact .member rfl rest (by simpa using digit)

/-- Every turn goes on. -/
lemma Turn.offset_lt {cur : Cursor} {c : Char} {t : Text} {s : Step} (turn : Turn cur c s)
    (rest : cur.rest = c :: t) : cur.offset < s.next.offset := by
  cases turn with
  | whiteSpace white =>
    refine offset_lt_advance cur ?_
    simp [leadingWhiteSpace, rest, white]
  | docstring => exact offset_lt_advance cur (List.cons_ne_nil _ _)
  | string => exact offset_lt_advance cur (List.cons_ne_nil _ _)
  | number digit =>
    refine offset_lt_advance cur ?_
    simp [leadingNumber, rest, isNumberPart, digit]
  | word starts =>
    refine offset_lt_advance cur ?_
    simp [leadingWord, rest, starts]
  | stalled => exact offset_lt_advance cur (List.cons_ne_nil _ _)
  | fraction => exact offset_lt_advance cur (List.cons_ne_nil _ _)
  | member =>
    rw [advance_append]
    exact offset_lt_advance cur (List.cons_ne_nil _ _)
  | comment hash =>
    refine offset_lt_advance cur ?_
    simp [leadingLine, rest, hash]
  | punct => exact offset_lt_advance cur (List.cons_ne_nil _ _)

/-- What is dispatched on the character at hand is a turn. The one exception is a character that
could only continue a word: it begins nothing and the place stays. -/
lemma dispatch_turn {cur : Cursor} {c : Char} {t : Text} (rest : cur.rest = c :: t) :
    ∃ s, cur.dispatch c = .ok s ∧
      (Turn cur c s ∨ s.next.offset = cur.offset ∧ Turn cur c (cur.take .stalled [c])) := by
  unfold dispatch
  split
  · next white => exact ⟨_, takeForm_eq _ rfl, .inl (.whiteSpace white)⟩
  next white =>
  rw [Bool.not_eq_true] at white
  split
  · next quote =>
    split
    · next triple =>
      obtain ⟨q, hq⟩ := Option.isSome_iff_exists.1 triple
      obtain ⟨-, t', e⟩ := tripleQuote?_eq_some.1 hq
      obtain ⟨rfl, -⟩ : q = c ∧ q :: q :: t' = t := by simpa [rest] using e
      have rest' : cur.rest = q :: q :: q :: t' := e.symm
      exact ⟨_, takeForm_eq _ (by rw [rest']; exact take_docstring quote),
        .inl (.docstring quote rest')⟩
    · next triple =>
      exact ⟨_, takeForm_eq _ (by rw [rest]; exact take_string quote),
        .inl (.string quote rest (by simpa using triple))⟩
  next quote =>
  rw [Bool.not_eq_true] at quote
  split
  · next digit => exact ⟨_, takeForm_eq _ rfl, .inl (.number digit)⟩
  next digit =>
  rw [Bool.not_eq_true] at digit
  split
  · next continues =>
    refine ⟨_, takeForm_eq _ rfl, ?_⟩
    cases starts : startsWord c with
    | true => exact .inl (.word starts digit rest)
    | false =>
      -- the word read here is empty, so the place stays and the step gives `c` up
      have nil : leadingWord cur.rest = [] := leadingWord_of_not_startsWord (by simp [rest, starts])
      refine .inr ⟨?_, .stalled white digit continues starts⟩
      simp [Taken.plain, nil, advance]
  next continues =>
  rw [Bool.not_eq_true] at continues
  split
  · next dot =>
    subst dot
    exact ⟨_, rfl, .inl (takeDot_turn rest)⟩
  next dot =>
  split
  · next hash => exact ⟨_, takeForm_eq _ rfl, .inl (.comment hash)⟩
  · next hash => exact ⟨_, rfl, .inl (.punct white quote digit continues dot hash)⟩

/-- A step at a character succeeds and takes a turn. -/
lemma step_turn {cur : Cursor} {c : Char} {t : Text} (rest : cur.rest = c :: t) :
    ∃ s, cur.step = .ok (some s) ∧ Turn cur c s := by
  obtain ⟨s, ok, turn | ⟨stay, turn⟩⟩ := dispatch_turn rest
  · exact ⟨s, by simp [step, rest, ok, Nat.not_le.2 (turn.offset_lt rest)], turn⟩
  · exact ⟨_, by simp [step, rest, ok, stay], turn⟩

/-- Nothing is taken at a character that could only continue a word. -/
lemma dispatch_of_stalled {cur : Cursor} {c : Char} {t : Text} (rest : cur.rest = c :: t)
    (digit : isDigit c = false) (continues : continuesWord c = true)
    (starts : startsWord c = false) : cur.dispatch c = .ok (cur.take (classify []) []) := by
  have white := isWhiteSpace_of_continuesWord continues
  have quote := isQuote_of_continuesWord continues
  have nil : leadingWord cur.rest = [] := leadingWord_of_not_startsWord (by simp [rest, starts])
  rw [dispatch, if_neg (by simp [white]), if_neg (by simp [quote]), if_neg (by simp [digit]),
    if_pos continues, takeForm_eq _ rfl]
  simp [Taken.plain, nil]

/-- The tests of a turn lead a step to it. -/
lemma step_of_turn {cur : Cursor} {c : Char} {t : Text} {s : Step} (rest : cur.rest = c :: t)
    (turn : Turn cur c s) : cur.step = .ok (some s) := by
  have lt := turn.offset_lt rest
  -- but for a stalled character a turn is what is dispatched, and it goes on
  have go : cur.dispatch c = .ok s → cur.step = .ok (some s) := by
    intro ok
    simp [step, rest, ok, Nat.not_le.2 lt]
  cases turn with
  | whiteSpace white =>
    apply go
    have took : Form.whiteSpace.take cur.rest = .ok (.plain (leadingWhiteSpace cur.rest)) := rfl
    rw [dispatch, if_pos white]
    exact takeForm_eq _ took
  | docstring quote rest' =>
    have mark := isMark_of_isQuote quote
    have triple : tripleQuote? cur.rest = some c :=
      tripleQuote?_eq_some.2 ⟨quote, rest' ▸ List.prefix_append [c, c, c] _⟩
    apply go
    rw [dispatch, if_neg (by simp [mark.white]), if_pos quote, if_pos (by simp [triple])]
    exact takeForm_eq _ (by rw [rest']; exact take_docstring quote)
  | string quote rest' triple =>
    have mark := isMark_of_isQuote quote
    apply go
    rw [dispatch, if_neg (by simp [mark.white]), if_pos quote, if_neg (by simp [triple])]
    exact takeForm_eq _ (by rw [rest']; exact take_string quote)
  | number digit =>
    have white := isWhiteSpace_of_isDigit digit
    have quote := isQuote_of_isDigit digit
    apply go
    have took : Form.number.take cur.rest = .ok (.plain (leadingNumber cur.rest)) := rfl
    rw [dispatch, if_neg (by simp [white]), if_neg (by simp [quote]), if_pos digit]
    exact takeForm_eq _ took
  | word starts digit rest' =>
    have continues := continuesWord_of_startsWord starts
    have white := isWhiteSpace_of_continuesWord continues
    have quote := isQuote_of_continuesWord continues
    apply go
    rw [dispatch, if_neg (by simp [white]), if_neg (by simp [quote]), if_neg (by simp [digit]),
      if_pos continues]
    have took : Form.word.take cur.rest = .ok (.plain (leadingWord cur.rest)) := rfl
    exact takeForm_eq _ took
  | stalled white digit continues starts =>
    have ok := dispatch_of_stalled rest digit continues starts
    simp [step, rest, ok, advance]
  | @fraction d t' dot rest' digit =>
    subst dot
    have mark := isMark_dot
    apply go
    rw [dispatch, if_neg (by simp [mark.white]), if_neg (by decide), if_neg (by simp [mark.digit]),
      if_neg (by simp [mark.continues]), if_pos rfl]
    have behind : (cur.advance ['.']).rest = d :: t' := by simp [advance, rest']
    simp [takeDot, behind, digit]
  | @member t' dot rest' digit =>
    subst dot
    have mark := isMark_dot
    apply go
    rw [dispatch, if_neg (by simp [mark.white]), if_neg (by decide), if_neg (by simp [mark.digit]),
      if_neg (by simp [mark.continues]), if_pos rfl]
    have behind : (cur.advance ['.']).rest = t' := by simp [advance, rest']
    have no_digit : t'.head?.any isDigit = false := by
      cases head : t'.head? with
      | none => rfl
      | some d => exact digit d head
    simp [takeDot, behind, no_digit]
  | comment hash =>
    subst hash
    have mark := isMark_hash
    apply go
    rw [dispatch, if_neg (by simp [mark.white]), if_neg (by decide), if_neg (by simp [mark.digit]),
      if_neg (by simp [mark.continues]), if_neg (by decide), if_pos rfl]
    have took : Form.comment.take cur.rest = .ok (.plain (leadingLine cur.rest)) := rfl
    exact takeForm_eq _ took
  | punct white quote digit continues dot hash =>
    apply go
    rw [dispatch, if_neg (by simp [white]), if_neg (by simp [quote]), if_neg (by simp [digit]),
      if_neg (by simp [continues]), if_neg dot, if_neg hash]

/-- There is no step at the end of a text. -/
lemma step_end {cur : Cursor} (rest : cur.rest = []) : cur.step = .ok none := by
  simp [step, rest]

/-- A step never fails. -/
lemma step_ne_error (cur : Cursor) (e : DelimiterError) : cur.step ≠ .error e := by
  intro h
  cases rest : cur.rest with
  | nil =>
    rw [step_end rest] at h
    cases h
  | cons c t =>
    obtain ⟨s, ok, -⟩ := step_turn rest
    rw [ok] at h
    cases h

/-- Only at the end of a text there is no step. -/
lemma rest_eq_nil_of_step {cur : Cursor} (h : cur.step = .ok none) : cur.rest = [] := by
  cases rest : cur.rest with
  | nil => rfl
  | cons c t =>
    obtain ⟨s, ok, -⟩ := step_turn rest
    rw [ok] at h
    cases h

/-- A step that was made has taken a turn. -/
lemma turn_of_step {cur : Cursor} {s : Step} (h : cur.step = .ok (some s)) :
    ∃ c t, cur.rest = c :: t ∧ Turn cur c s := by
  cases rest : cur.rest with
  | nil =>
    rw [step_end rest] at h
    cases h
  | cons c t =>
    obtain ⟨s', ok, turn⟩ := step_turn rest
    rw [ok] at h
    cases h
    exact ⟨c, t, rfl, turn⟩

end Cursor

/-! ### Fronts -/

/-- The body of a docstring is taken from the front of the text. -/
lemma docstringBody_isPrefix (q : Char) (t : Text) : (docstringBody q t).text <+: t := by
  fun_induction docstringBody q t with
  | case1 => exact List.nil_prefix
  | case2 c t triple =>
    exact (tripleQuote?_eq_some.1 triple).2
  | case3 c t triple ih => exact List.cons_prefix_cons.2 ⟨rfl, ih⟩

/-- The body of a string is taken from the front of the text. -/
lemma stringBody_isPrefix (q : Char) (t : Text) : (stringBody q t).text <+: t := by
  fun_induction stringBody q t with
  | case1 => exact List.nil_prefix
  | case2 c t ih => exact List.cons_prefix_cons.2 ⟨rfl, List.cons_prefix_cons.2 ⟨rfl, ih⟩⟩
  | case3 t => exact List.nil_prefix
  | case4 => exact List.cons_prefix_cons.2 ⟨rfl, List.nil_prefix⟩
  | case5 c t _ _ _ ih => exact List.cons_prefix_cons.2 ⟨rfl, ih⟩

/-- A word is taken from the front of the text. -/
lemma leadingWord_isPrefix (t : Text) : leadingWord t <+: t := by
  fun_cases leadingWord t with
  | case1 => exact List.nil_prefix
  | case2 c t starts => exact List.cons_prefix_cons.2 ⟨rfl, List.takeWhile_prefix _⟩
  | case3 c t starts => exact List.nil_prefix

/-- A docstring is taken only where a triple quote stands. -/
lemma triple_of_take_docstring {t : Text} {taken : Taken} (h : Form.docstring.take t = .ok taken) :
    ∃ q t', isQuote q = true ∧ t = q :: q :: q :: t' ∧
      taken.text = q :: q :: q :: (docstringBody q t').text := by
  cases triple : tripleQuote? t with
  | none => simp [Form.take, leadingDocstring?, triple] at h
  | some q =>
    obtain ⟨quote, t', rfl⟩ := tripleQuote?_eq_some.1 triple
    have ok := take_docstring (t := t') quote
    rw [List.cons_append, List.cons_append, List.cons_append, List.nil_append, ok] at h
    cases h
    exact ⟨q, t', quote, rfl, rfl⟩

/-- A string is taken only where a quote stands. -/
lemma quote_of_take_string {t : Text} {taken : Taken} (h : Form.string.take t = .ok taken) :
    ∃ q t', isQuote q = true ∧ t = q :: t' ∧ taken.text = q :: (stringBody q t').text := by
  cases t with
  | nil => cases h
  | cons q t' =>
    cases quote : isQuote q with
    | false => simp [Form.take, leadingString?, quote] at h
    | true =>
      rw [take_string quote] at h
      cases h
      exact ⟨q, t', quote, rfl, rfl⟩

/-- What a form takes stands at the front of the text. -/
lemma Form.take_isPrefix {form : Form} {t : Text} {taken : Taken} (h : form.take t = .ok taken) :
    taken.text <+: t := by
  cases form with
  | whiteSpace =>
    cases h
    exact List.takeWhile_prefix _
  | docstring =>
    obtain ⟨q, t', -, rfl, e⟩ := triple_of_take_docstring h
    rw [e]
    exact (List.prefix_append_right_inj [q, q, q]).2 (docstringBody_isPrefix q t')
  | string =>
    obtain ⟨q, t', -, rfl, e⟩ := quote_of_take_string h
    rw [e]
    exact List.cons_prefix_cons.2 ⟨rfl, stringBody_isPrefix q t'⟩
  | number =>
    cases h
    exact List.takeWhile_prefix _
  | word =>
    cases h
    exact leadingWord_isPrefix t
  | comment =>
    cases h
    exact List.takeWhile_prefix _

/-- A reading goes on behind what the form took. -/
lemma Form.take_of_read {form : Form} {cur : Cursor} {reading : Reading}
    (h : form.read cur = .ok reading) :
    form.take cur.rest = .ok reading.toTaken ∧ reading.next = cur.advance reading.text := by
  unfold Form.read at h
  split at h
  · next taken e =>
    cases h
    exact ⟨e, rfl⟩
  · cases h

/-! ### Lexemes on the way -/

namespace Cursor

/-- The lexemes lead from one place to another: each is some text at the front of the rest where it
begins, and the next one begins behind it. -/
inductive Leads : Cursor → List Lexeme → Cursor → Prop where
  | nil {cur} :
    Leads cur [] cur
  | cons {cur kind text lexemes last} :
    text ≠ [] →
    text <+: cur.rest →
    Leads (cur.advance text) lexemes last →
    Leads cur (cur.lexeme kind text :: lexemes) last

/-- Lexemes that lead to a place and lexemes that lead on from there. -/
lemma Leads.trans {cur mid last : Cursor} {l m : List Lexeme} (first : Leads cur l mid)
    (second : Leads mid m last) : Leads cur (l ++ m) last := by
  induction first with
  | nil => exact second
  | cons ne pre _ ih => exact .cons ne pre (ih second)

/-- What is taken at a place leads behind it. -/
lemma leads_take {cur : Cursor} {text : Text} (kind : Kind) (pre : text <+: cur.rest) :
    Leads cur (cur.take kind text).lexemes (cur.take kind text).next := by
  by_cases ne : text = []
  · subst ne
    have stay : cur.advance [] = cur := by simp [advance]
    rw [take_next, stay]
    exact .nil
  · rw [take_lexemes cur kind ne]
    exact .cons ne pre .nil

/-- A turn leads to where it goes on. -/
lemma Turn.leads {cur : Cursor} {c : Char} {t : Text} {s : Step} (turn : Turn cur c s)
    (rest : cur.rest = c :: t) : Leads cur s.lexemes s.next := by
  have one : [c] <+: cur.rest := rest ▸ List.prefix_append [c] t
  cases turn with
  | whiteSpace => exact leads_take _ (List.takeWhile_prefix _)
  | @docstring t' _ rest' =>
    refine leads_take _ ?_
    rw [rest']
    exact (List.prefix_append_right_inj [c, c, c]).2 (docstringBody_isPrefix c t')
  | @string t' _ rest' =>
    refine leads_take _ ?_
    rw [rest']
    exact List.cons_prefix_cons.2 ⟨rfl, stringBody_isPrefix c t'⟩
  | number => exact leads_take _ (List.takeWhile_prefix _)
  | word => exact leads_take _ (leadingWord_isPrefix _)
  | stalled => exact leads_take _ one
  | @fraction d t' _ rest' =>
    refine leads_take _ ?_
    rw [rest']
    exact List.cons_prefix_cons.2 ⟨rfl, List.takeWhile_prefix _⟩
  | @member t' _ rest' =>
    have behind : (cur.advance [c]).rest = t' := by simp [advance, rest']
    refine .cons (List.cons_ne_nil _ _) one (leads_take .ident ?_)
    rw [behind]
    exact leadingWord_isPrefix t'
  | comment => exact leads_take _ (List.takeWhile_prefix _)
  | punct => exact leads_take _ one

/-- Between two places stand the texts of the lexemes that lead from one to the other. -/
lemma Leads.rest_eq {cur last : Cursor} {lexemes : List Lexeme} (leads : Leads cur lexemes last) :
    cur.rest = lexemes.flatMap (·.text) ++ last.rest := by
  induction leads with
  | nil => rfl
  | @cons cur kind text lexemes last ne pre _ ih =>
    obtain ⟨rest, e⟩ := pre
    have behind : (cur.advance text).rest = rest := by simp [advance, ← e]
    rw [List.flatMap_cons, List.append_assoc, ← ih, behind]
    exact e.symm

/-- Offsets grow by the bytes of the lexemes passed. -/
lemma Leads.offset_eq {cur last : Cursor} {lexemes : List Lexeme} (leads : Leads cur lexemes last) :
    last.offset = cur.offset + Text.size (lexemes.flatMap (·.text)) := by
  induction leads with
  | nil => rfl
  | @cons cur kind text lexemes last _ _ _ ih =>
    rw [ih, List.flatMap_cons, Text.size_append]
    exact Nat.add_assoc _ _ _

/-- Every lexeme has a character of its own. -/
lemma Leads.length_le {cur last : Cursor} {lexemes : List Lexeme} (leads : Leads cur lexemes last) :
    lexemes.length ≤ (lexemes.flatMap (·.text)).length := by
  induction leads with
  | nil => exact Nat.le_refl _
  | @cons cur kind text lexemes last ne _ _ ih =>
    have pos := List.length_pos_iff.2 ne
    rw [List.flatMap_cons, List.length_append, List.length_cons]
    simp only [lexeme]
    omega

end Cursor

end Highlight
