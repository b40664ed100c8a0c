import Highlight.Proofs.Occurrence
import Highlight.Proofs.Vocabulary

/-!
# The lexical grammar

`Lexical` says when a stretch of text is a token of a kind, by its own characters, by the text
behind it and, for words, by whether a dot stands before it. It is a grammar and no procedure:
nothing in it says in what order things are tried.

Main facts:

* `Cursor.Turn.parses`: what a step takes obeys the grammar.
* `Lexical.recast`: a dot before a token matters to the kind of a word only.
* `Lexical.turn`: what obeys the grammar at a place is what a step takes there first.
* `Lexical.unique`: so at most one stretch of one kind obeys it at a place.
-/

namespace Highlight

/-- The inside of a string between quotes `q`: characters other than the quote, the newline and the
backslash, and pairs of a backslash and any character. -/
inductive StringItems (q : Char) : Text → Prop where
  | nil :
    StringItems q []
  | plain {c t} :
    c ≠ q →
    c ≠ '\n' →
    c ≠ '\\' →
    StringItems q t →
    StringItems q (c :: t)
  | escape {c t} :
    StringItems q t →
    StringItems q ('\\' :: c :: t)

/-- The lexical grammar: `text` is a token of a kind where `behind` follows it. The flag says that a
dot stands directly before it. -/
inductive Lexical (member : Bool) : Kind → Text → Text → Prop where
  | whitespace {text behind} :
    (∀ c ∈ text, isWhiteSpace c = true) →
    (∀ n ∈ behind.head?, isWhiteSpace n = false) →
    Lexical member .whitespace text behind
  | docstring {q body behind} :
    isQuote q = true →
    FirstBehind [q, q, q] body (body ++ [q, q, q] ++ behind) →
    Lexical member .docstring ([q, q, q] ++ body ++ [q, q, q]) behind
  | openDocstring {q body} :
    isQuote q = true →
    ¬[q, q, q] <:+: body →
    Lexical member .unterminatedDocstring ([q, q, q] ++ body) []
  | string {q items behind} :
    isQuote q = true →
    ¬[q, q, q] <+: q :: items ++ [q] ++ behind →
    StringItems q items →
    Lexical member .string (q :: items ++ [q]) behind
  | brokenString {q items behind} :
    isQuote q = true →
    ¬[q, q, q] <+: q :: items ++ behind →
    StringItems q items →
    behind.head? = some '\n' →
    Lexical member .unterminatedString (q :: items) behind
  | openString {q items} :
    isQuote q = true →
    ¬[q, q, q] <+: q :: items →
    StringItems q items →
    Lexical member .unterminatedString (q :: items) []
  | openEscape {q items} :
    isQuote q = true →
    ¬[q, q, q] <+: q :: items ++ ['\\'] →
    StringItems q items →
    Lexical member .unterminatedString (q :: items ++ ['\\']) []
  | number {d text behind} :
    isDigit d = true →
    (∀ c ∈ text, NumberChar c) →
    (∀ n ∈ behind.head?, ¬NumberChar n) →
    Lexical member .number (d :: text) behind
  | fraction {d text behind} :
    isDigit d = true →
    (∀ c ∈ text, NumberChar c) →
    (∀ n ∈ behind.head?, ¬NumberChar n) →
    Lexical member .number ('.' :: d :: text) behind
  | word {c text behind} :
    WordStart c →
    isDigit c = false →
    (∀ d ∈ text, WordChar d) →
    (∀ n ∈ behind.head?, ¬WordChar n) →
    Lexical member (if member then .ident else wordKind (c :: text)) (c :: text) behind
  | comment {text behind} :
    '\n' ∉ text →
    (∀ n ∈ behind.head?, n = '\n') →
    Lexical member .comment ('#' :: text) behind
  | dot {behind} :
    (∀ n ∈ behind.head?, isDigit n = false) →
    Lexical member .punct ['.'] behind
  | punct {c behind} :
    isWhiteSpace c = false →
    isQuote c = false →
    isDigit c = false →
    ¬WordChar c →
    c ≠ '.' →
    c ≠ '#' →
    Lexical member .punct [c] behind
  | stalled {c behind} :
    isWhiteSpace c = false →
    isDigit c = false →
    WordChar c →
    ¬WordStart c →
    Lexical member .stalled [c] behind

namespace Lexical

variable {member : Bool} {c : Char} {behind : Text}

/-- The number that is taken behind a digit obeys the grammar. -/
lemma takeWhile_number {t : Text} (digit : isDigit c = true)
    (next : ∀ n ∈ behind.head?, isNumberPart n = false) :
    Lexical member .number (c :: t.takeWhile isNumberPart) behind := by
  refine .number digit (fun d mem => ?_) (fun n mem => not_numberChar_iff.2 (next n mem))
  exact (isNumberPart_iff d).1 (List.mem_takeWhile_imp mem)

/-- The number that is taken behind a dot and a digit obeys the grammar. -/
lemma takeWhile_fraction {t : Text} (digit : isDigit c = true)
    (next : ∀ n ∈ behind.head?, isNumberPart n = false) :
    Lexical member .number ('.' :: c :: t.takeWhile isNumberPart) behind := by
  refine .fraction digit (fun d mem => ?_) (fun n mem => not_numberChar_iff.2 (next n mem))
  exact (isNumberPart_iff d).1 (List.mem_takeWhile_imp mem)

/-- The word that is taken obeys the grammar. -/
lemma takeWhile_word {t : Text} (starts : startsWord c = true) (digit : isDigit c = false)
    (next : ∀ n ∈ behind.head?, continuesWord n = false) :
    Lexical member (if member then .ident else wordKind (c :: t.takeWhile continuesWord))
      (c :: t.takeWhile continuesWord) behind := by
  refine .word ((startsWord_iff c).1 starts) digit (fun d mem => ?_)
    (fun n mem => not_wordChar_iff.2 (next n mem))
  exact (continuesWord_iff d).1 (List.mem_takeWhile_imp mem)

end Lexical

/-! ### Strings -/

/-- No triple quote is found where none stands. -/
lemma tripleQuote?_eq_none {q : Char} {t : Text} (h : ¬[q, q, q] <+: q :: t) :
    tripleQuote? (q :: t) = none := by
  rw [Option.eq_none_iff_forall_ne_some]
  intro d triple
  have pre := (tripleQuote?_eq_some.1 triple).2
  obtain rfl := (List.cons_prefix_cons.1 pre).1
  exact h pre

/-- A character that is no backslash is looked at by itself. -/
lemma stringBody_cons {q c : Char} (t : Text) (no_escape : c ≠ '\\') :
    stringBody q (c :: t) =
      if c = '\n' then ⟨[], .unterminated⟩
      else if c = q then ⟨[c], .complete⟩
      else (stringBody q t).cons c := by
  rw [stringBody]
  intro d t' h _
  exact absurd h no_escape

/-- Items are passed over, whatever follows them. -/
lemma StringItems.body_append {q : Char} {items : Text} (h : StringItems q items) (t : Text) :
    stringBody q (items ++ t) =
      ⟨items ++ (stringBody q t).text, (stringBody q t).closing⟩ := by
  induction h with
  | nil => rfl
  | @plain c items not_quote not_newline not_escape _ ih =>
    rw [List.cons_append, stringBody_cons _ not_escape, if_neg not_newline, if_neg not_quote, ih]
    rfl
  | @escape c items _ ih =>
    rw [List.cons_append, List.cons_append, stringBody, ih]
    rfl

/-- How a string ends behind its items. -/
inductive StringEnd (q : Char) : Text → Taken → Prop where
  | closed {behind} :
    StringEnd q (q :: behind) ⟨[q], .complete⟩
  | broken {behind} :
    StringEnd q ('\n' :: behind) ⟨[], .unterminated⟩
  | unclosed :
    StringEnd q [] ⟨[], .unterminated⟩
  | escape :
    StringEnd q ['\\'] ⟨['\\'], .unterminated⟩

/-- A quote is neither a newline nor a backslash. -/
lemma ne_of_isQuote {q : Char} (quote : isQuote q = true) : q ≠ '\n' ∧ q ≠ '\\' := by
  simp only [isQuote, Bool.or_eq_true, beq_iff_eq] at quote
  rcases quote with rfl | rfl
  · decide
  · decide

/-- A string ends where its items do. -/
lemma StringEnd.body_eq {q : Char} {t : Text} {taken : Taken} (quote : isQuote q = true)
    (h : StringEnd q t taken) : stringBody q t = taken := by
  obtain ⟨not_newline, not_escape⟩ := ne_of_isQuote quote
  cases h with
  | closed => rw [stringBody_cons _ not_escape, if_neg not_newline, if_pos rfl]
  | broken => rw [stringBody_cons _ (by decide), if_pos rfl]
  | unclosed => rfl
  | escape => simp [stringBody, not_escape.symm, Taken.cons]

/-- The text behind a quote begins with items and goes on with the end of a string. -/
lemma exists_stringItems (q : Char) (t : Text) :
    ∃ items t' taken, t = items ++ t' ∧ StringItems q items ∧ StringEnd q t' taken := by
  fun_induction stringBody q t with
  | case1 => exact ⟨[], [], _, rfl, .nil, .unclosed⟩
  | case2 c t ih =>
    obtain ⟨items, t', taken, rfl, inside, ends⟩ := ih
    exact ⟨'\\' :: c :: items, t', taken, rfl, .escape inside, ends⟩
  | case3 t => exact ⟨[], _, _, rfl, .nil, .broken⟩
  | case4 t => exact ⟨[], _, _, rfl, .nil, .closed⟩
  | case5 c t no_escape not_newline not_quote ih =>
    obtain ⟨items, t', taken, rfl, inside, ends⟩ := ih
    by_cases back : c = '\\'
    · -- a backslash makes a pair with what is behind it, so here the text ends
      subst back
      cases items with
      | nil =>
        cases t' with
        | nil => exact ⟨[], _, _, rfl, .nil, .escape⟩
        | cons d t' => exact absurd rfl (no_escape d t' rfl)
      | cons d items => exact absurd rfl (no_escape d (items ++ t') rfl)
    · exact ⟨c :: items, t', taken, rfl, .plain not_quote not_newline back inside, ends⟩

/-! ### Longest runs -/

/-- A run of fitting characters is the longest one if no such character follows. -/
lemma takeWhile_append_eq {p : Char → Bool} {text behind : Text} (all : ∀ c ∈ text, p c = true)
    (next : ∀ n ∈ behind.head?, p n = false) : (text ++ behind).takeWhile p = text := by
  rw [List.takeWhile_append_of_pos all]
  cases behind with
  | nil => simp
  | cons n behind => simp [next n rfl]

/-- Behind the longest run of fitting characters none follows. -/
lemma exists_takeWhile (p : Char → Bool) (t : Text) :
    ∃ behind, t = t.takeWhile p ++ behind ∧ ∀ n ∈ behind.head?, p n = false := by
  refine ⟨t.dropWhile p, List.takeWhile_append_dropWhile.symm, ?_⟩
  intro n mem
  have stop := List.head?_dropWhile_not p t
  rw [Option.mem_def.1 mem] at stop
  exact stop

/-- A word is taken from its first character on. -/
lemma leadingWord_cons {c : Char} (t : Text) (starts : startsWord c = true) :
    leadingWord (c :: t) = c :: t.takeWhile continuesWord := if_pos starts

/-- The kind of a word is one of words. -/
lemma isWord_wordKind (word : Text) : (wordKind word).isWord = true := by
  unfold wordKind tableKind?
  split_ifs <;> rfl

/-- So it is behind a dot. -/
lemma isWord_ite_wordKind (member : Bool) (word : Text) :
    (if member then Kind.ident else wordKind word).isWord = true := by
  cases member with
  | false => exact isWord_wordKind word
  | true => rfl

/-! ### Lexemes that obey the grammar -/

/-- Whether a token is a dot that stands alone. -/
def isLoneDot (kind : Kind) (text : Text) : Bool := kind == .punct && text == ['.']

/-- A word is no dot. -/
lemma isLoneDot_of_isWord {kind : Kind} (text : Text) (word : kind.isWord = true) :
    isLoneDot kind text = false := by
  revert word
  cases kind <;> simp [Kind.isWord, isLoneDot]

namespace Cursor

/-- The lexemes lead from one place to another and obey the grammar on the way. The flags say that a
dot stands directly before the places. -/
inductive Parses : Bool → Cursor → List Lexeme → Bool → Cursor → Prop where
  | nil {member cur} :
    Parses member cur [] member cur
  | cons {member cur kind text behind lexemes member' last} :
    text ≠ [] →
    cur.rest = text ++ behind →
    Lexical member kind text behind →
    Parses (isLoneDot kind text) (cur.advance text) lexemes member' last →
    Parses member cur (cur.lexeme kind text :: lexemes) member' last

/-- Stretches that obey the grammar, and stretches behind them that do. -/
lemma Parses.trans {m₁ m₂ m₃ : Bool} {cur mid last : Cursor} {l l' : List Lexeme}
    (first : Parses m₁ cur l m₂ mid) (second : Parses m₂ mid l' m₃ last) :
    Parses m₁ cur (l ++ l') m₃ last := by
  induction first with
  | nil => exact second
  | cons ne rest rule _ ih => exact .cons ne rest rule (ih second)

/-- One stretch of text that obeys the grammar, taken at a place. -/
lemma parses_take {member : Bool} {cur : Cursor} {kind : Kind} {text behind : Text}
    (ne : text ≠ []) (rest : cur.rest = text ++ behind) (rule : Lexical member kind text behind) :
    Parses member cur (cur.take kind text).lexemes (isLoneDot kind text)
      (cur.take kind text).next := by
  rw [take_lexemes cur kind ne]
  exact .cons ne rest rule .nil

/-- Behind a lone dot there is no word: the step that took the dot has taken the member too. -/
def Ready (member : Bool) (cur : Cursor) : Prop :=
  member = true → ∀ c ∈ cur.rest.head?, startsWord c = false

/-- Where no dot stands before it, a place is ready. -/
lemma ready_false (cur : Cursor) : Ready false cur := fun h => absurd h Bool.false_ne_true

/-- What a docstring takes obeys the grammar. -/
lemma exists_docstring (member : Bool) {q : Char} (t : Text) (quote : isQuote q = true) :
    ∃ behind, t = (docstringBody q t).text ++ behind ∧
      Lexical member
        (if (docstringBody q t).closing = .complete then .docstring else .unterminatedDocstring)
        (q :: q :: q :: (docstringBody q t).text) behind := by
  by_cases occurs : [q, q, q] <:+: t
  · obtain ⟨body, first⟩ := exists_firstBehind occurs
    obtain ⟨behind, e⟩ := first.occurs
    rw [docstringBody_of_first quote first]
    refine ⟨behind, e.symm, ?_⟩
    rw [if_pos rfl]
    exact .docstring quote (e ▸ first)
  · rw [docstringBody_of_not_isInfix occurs]
    refine ⟨[], (List.append_nil t).symm, ?_⟩
    rw [if_neg nofun]
    exact .openDocstring quote occurs

/-- What a string takes obeys the grammar. -/
lemma exists_string (member : Bool) {q : Char} (t : Text) (quote : isQuote q = true)
    (triple : ¬[q, q, q] <+: q :: t) :
    ∃ behind, t = (stringBody q t).text ++ behind ∧
      Lexical member
        (if (stringBody q t).closing = .complete then .string else .unterminatedString)
        (q :: (stringBody q t).text) behind := by
  obtain ⟨items, t', taken, rfl, inside, ends⟩ := exists_stringItems q t
  rw [inside.body_append, ends.body_eq quote]
  cases ends with
  | @closed behind =>
    refine ⟨behind, by simp, ?_⟩
    rw [if_pos rfl]
    exact .string quote (by simpa using triple) inside
  | @broken behind =>
    refine ⟨'\n' :: behind, by simp, ?_⟩
    rw [if_neg nofun, List.append_nil]
    exact .brokenString quote triple inside rfl
  | unclosed =>
    refine ⟨[], by simp, ?_⟩
    rw [if_neg nofun, List.append_nil]
    exact .openString quote (by simpa using triple) inside
  | escape =>
    refine ⟨[], by simp, ?_⟩
    rw [if_neg nofun]
    exact .openEscape quote triple inside

/-- What a step takes obeys the grammar. -/
lemma Turn.parses {cur : Cursor} {c : Char} {t : Text} {s : Step} {member : Bool}
    (turn : Turn cur c s) (rest : cur.rest = c :: t) (ready : Ready member cur) :
    ∃ member', Parses member cur s.lexemes member' s.next ∧ Ready member' s.next := by
  -- but for the dot a turn takes one token, which is no dot
  have one : ∀ {kind text behind}, text ≠ [] → cur.rest = text ++ behind →
      Lexical member kind text behind → isLoneDot kind text = false →
      ∃ member', Parses member cur (cur.take kind text).lexemes member' (cur.take kind text).next ∧
        Ready member' (cur.take kind text).next := by
    intro kind text behind ne rest rule no_dot
    refine ⟨false, ?_, ready_false _⟩
    have parses := parses_take ne rest rule
    rwa [no_dot] at parses
  cases turn with
  | whiteSpace white =>
    obtain ⟨behind, e, next⟩ := exists_takeWhile isWhiteSpace cur.rest
    refine one ?_ e (.whitespace (fun _ => List.mem_takeWhile_imp) next) rfl
    simp [leadingWhiteSpace, rest, white]
  | @docstring t' quote rest' =>
    obtain ⟨behind, e, rule⟩ := exists_docstring member t' quote
    refine one (List.cons_ne_nil _ _) ?_ rule (by split <;> rfl)
    rw [rest', List.cons_append, List.cons_append, List.cons_append, ← e]
  | @string t' quote rest' triple =>
    have not_triple : ¬[c, c, c] <+: c :: t' := by
      intro pre
      rw [rest', tripleQuote?_eq_some.2 ⟨quote, pre⟩] at triple
      cases triple
    obtain ⟨behind, e, rule⟩ := exists_string member t' quote not_triple
    refine one (List.cons_ne_nil _ _) ?_ rule (by split <;> rfl)
    rw [rest', List.cons_append, ← e]
  | number digit =>
    obtain ⟨behind, e, next⟩ := exists_takeWhile isNumberPart t
    have text : leadingNumber cur.rest = c :: t.takeWhile isNumberPart := by
      simp [leadingNumber, rest, isNumberPart, digit]
    rw [text]
    refine one (List.cons_ne_nil _ _) ?_ (.takeWhile_number digit next) rfl
    rw [rest, List.cons_append, ← e]
  | word starts digit =>
    obtain ⟨behind, e, next⟩ := exists_takeWhile continuesWord t
    have text : leadingWord cur.rest = c :: t.takeWhile continuesWord :=
      rest ▸ leadingWord_cons t starts
    rw [text, classify_eq]
    cases member with
    | true =>
      have not_starts := ready rfl c (by rw [rest]; rfl)
      rw [starts] at not_starts
      cases not_starts
    | false =>
      refine one (List.cons_ne_nil _ _) ?_
        (.takeWhile_word starts digit next)
        (isLoneDot_of_isWord _ (isWord_wordKind _))
      rw [rest, List.cons_append, ← e]
  | stalled white digit continues starts =>
    exact one (List.cons_ne_nil _ _) rest (.stalled white digit ((continuesWord_iff c).1 continues)
      (not_wordStart_iff.2 starts)) rfl
  | @fraction d t' dot rest' digit =>
    subst dot
    obtain ⟨behind, e, next⟩ := exists_takeWhile isNumberPart t'
    have text : leadingNumber (d :: t') = d :: t'.takeWhile isNumberPart := by
      simp [leadingNumber, isNumberPart, digit]
    rw [text]
    refine one (List.cons_ne_nil _ _) ?_ (.takeWhile_fraction digit next) rfl
    rw [rest', List.cons_append, List.cons_append, ← e]
  | @member t' dot rest' digit =>
    subst dot
    have behind : (cur.advance ['.']).rest = t' := by simp [advance, rest']
    have first : Lexical member .punct ['.'] t' := .dot digit
    by_cases word : leadingWord t' = []
    · -- the dot stands alone, and what is behind it begins no word
      refine ⟨true, .cons (List.cons_ne_nil _ _) rest' first ?_, ?_⟩
      · rw [word]
        have stay : (cur.advance ['.']).advance [] = cur.advance ['.'] := by simp [advance]
        rw [stay]
        exact .nil
      · intro _ d mem
        rw [word, advance_append, List.append_nil, behind] at mem
        obtain ⟨t'', rfl⟩ : ∃ t'', t' = d :: t'' := List.head?_eq_some_iff.1 mem
        rw [Bool.eq_false_iff]
        intro starts
        rw [leadingWord_cons t'' starts] at word
        cases word
    · obtain ⟨d, t'', rfl, starts⟩ : ∃ d t'', t' = d :: t'' ∧ startsWord d = true := by
        cases t' with
        | nil => exact absurd rfl word
        | cons d t'' =>
          refine ⟨d, t'', rfl, ?_⟩
          by_contra not_starts
          exact word (if_neg not_starts)
      obtain ⟨behind', e, next⟩ := exists_takeWhile continuesWord t''
      have text := leadingWord_cons t'' starts
      have second : Lexical true .ident (d :: t''.takeWhile continuesWord) behind' :=
        .takeWhile_word starts (digit d rfl) next
      rw [text]
      refine ⟨false, .cons (List.cons_ne_nil _ _) rest' first
        (parses_take (List.cons_ne_nil _ _) ?_ second), ready_false _⟩
      rw [behind, List.cons_append, ← e]
  | comment hash =>
    subst hash
    obtain ⟨behind, e, next⟩ := exists_takeWhile (· != '\n') t
    have text : leadingLine cur.rest = '#' :: t.takeWhile (· != '\n') := by
      simp [leadingLine, rest]
    have rule : Lexical member .comment ('#' :: t.takeWhile (· != '\n')) behind := by
      refine .comment (fun mem => ?_) (fun n mem => ?_)
      · have ne := List.mem_takeWhile_imp mem
        simp at ne
      · simpa using next n mem
    rw [text]
    refine one (List.cons_ne_nil _ _) ?_ rule rfl
    rw [rest, List.cons_append, ← e]
  | punct white quote digit continues dot hash =>
    refine one (List.cons_ne_nil _ _) rest
      (.punct white quote digit (not_wordChar_iff.2 continues) dot hash) ?_
    simp [isLoneDot, dot]

end Cursor

/-! ### Under another flag -/

namespace Kind

/-- The kind of a text where the flag says whether a dot stands directly before it, by a kind that
it has under some flag. -/
def recast (member : Bool) (text : Text) (kind : Kind) : Kind :=
  if kind.isWord then if member then .ident else classify text else kind

/-- A word has its kind by the flag. -/
lemma recast_of_isWord {kind : Kind} (member : Bool) (text : Text) (word : kind.isWord = true) :
    kind.recast member text = if member then .ident else wordKind text := by
  rw [recast, if_pos word, classify_eq]

/-- What is no word keeps its kind. -/
lemma recast_of_not_isWord {kind : Kind} (member : Bool) (text : Text)
    (no_word : ¬kind.isWord = true) : kind.recast member text = kind := if_neg no_word

/-- The last flag counts. -/
lemma recast_recast (m m' : Bool) (text : Text) (kind : Kind) :
    (kind.recast m text).recast m' text = kind.recast m' text := by
  by_cases word : kind.isWord = true
  · rw [recast_of_isWord m text word, recast_of_isWord m' text word,
      recast_of_isWord m' text (isWord_ite_wordKind m text)]
  · rw [recast_of_not_isWord m text word]

end Kind

/-- Under another flag a lone dot is a lone dot still, and nothing else becomes one. -/
lemma isLoneDot_recast (member : Bool) (kind : Kind) (text : Text) :
    isLoneDot (kind.recast member text) text = isLoneDot kind text := by
  by_cases word : kind.isWord = true
  · rw [Kind.recast_of_isWord member text word, isLoneDot_of_isWord text word,
      isLoneDot_of_isWord text (isWord_ite_wordKind member text)]
  · rw [Kind.recast_of_not_isWord member text word]

namespace Lexical

variable {member : Bool} {kind : Kind} {text behind : Text}

/-- A dot before it matters to the kind of a word, and to nothing else. -/
lemma recast (rule : Lexical member kind text behind) (member' : Bool) :
    Lexical member' (kind.recast member' text) text behind := by
  cases rule with
  | whitespace all next => exact .whitespace all next
  | docstring quote first => exact .docstring quote first
  | openDocstring quote not_in => exact .openDocstring quote not_in
  | string quote triple inside => exact .string quote triple inside
  | brokenString quote triple inside next => exact .brokenString quote triple inside next
  | openString quote triple inside => exact .openString quote triple inside
  | openEscape quote triple inside => exact .openEscape quote triple inside
  | number digit all next => exact .number digit all next
  | fraction digit all next => exact .fraction digit all next
  | word starts digit all next =>
    rw [Kind.recast_of_isWord _ _ (isWord_ite_wordKind _ _)]
    exact .word starts digit all next
  | comment no_newline next => exact .comment no_newline next
  | dot next => exact .dot next
  | punct white quote digit continues dot hash =>
    exact .punct white quote digit continues dot hash
  | stalled white digit continues starts => exact .stalled white digit continues starts

/-- Under its own flag a token keeps its kind. -/
lemma recast_self (rule : Lexical member kind text behind) : kind.recast member text = kind := by
  cases rule with
  | word => exact Kind.recast_of_isWord _ _ (isWord_ite_wordKind _ _)
  | _ => rfl

/-- A word behind a dot is a name. -/
lemma eq_ident (rule : Lexical true kind text behind) (word : kind.isWord = true) :
    kind = .ident := by
  have same := rule.recast_self
  rw [Kind.recast_of_isWord _ _ word] at same
  exact same.symm

end Lexical

/-! ### One reading at most -/

namespace Lexical

open Cursor

/-- A digit and what a number goes on with are taken as a number. -/
lemma leadingNumber_append {d : Char} {text behind : Text} (digit : isDigit d = true)
    (all : ∀ c ∈ text, NumberChar c) (next : ∀ n ∈ behind.head?, ¬NumberChar n) :
    leadingNumber (d :: text ++ behind) = d :: text := by
  refine takeWhile_append_eq (fun c mem => (isNumberPart_iff c).2 ?_) fun n mem => ?_
  · cases mem with
    | head => exact .inl digit
    | tail _ mem => exact all c mem
  · exact not_numberChar_iff.1 (next n mem)

/-- What obeys the grammar at a place, where no dot stands before it, is what a step takes there
first. -/
lemma turn {cur : Cursor} {kind : Kind} {text behind : Text} (rule : Lexical false kind text behind)
    (ne : text ≠ []) (rest : cur.rest = text ++ behind) :
    ∃ c t s more, cur.rest = c :: t ∧ Turn cur c s ∧
      s.lexemes = cur.lexeme kind text :: more := by
  cases rule with
  | whitespace all next =>
    obtain ⟨c, t, rfl⟩ := List.exists_cons_of_ne_nil ne
    have white : isWhiteSpace c = true := all c List.mem_cons_self
    have run : leadingWhiteSpace cur.rest = c :: t := rest ▸ takeWhile_append_eq all next
    refine ⟨c, t ++ behind, _, [], rest, .whiteSpace white, ?_⟩
    rw [run, take_lexemes cur _ ne]
  | @docstring q body behind quote first =>
    have rest' : cur.rest = q :: q :: q :: (body ++ [q, q, q] ++ behind) := by simpa using rest
    refine ⟨q, _, _, [], rest', .docstring quote rest', ?_⟩
    rw [docstringBody_of_first quote first, take_lexemes cur _ (List.cons_ne_nil _ _)]
    rfl
  | @openDocstring q body quote not_in =>
    have rest' : cur.rest = q :: q :: q :: body := by simpa using rest
    refine ⟨q, _, _, [], rest', .docstring quote rest', ?_⟩
    rw [docstringBody_of_not_isInfix not_in, take_lexemes cur _ (List.cons_ne_nil _ _)]
    rfl
  | @string q items behind quote triple inside =>
    have rest' : cur.rest = q :: (items ++ q :: behind) := by simpa using rest
    refine ⟨q, _, _, [], rest', .string quote rest' (rest ▸ tripleQuote?_eq_none triple), ?_⟩
    rw [inside.body_append, StringEnd.closed.body_eq quote,
      take_lexemes cur _ (List.cons_ne_nil _ _)]
    rfl
  | @brokenString q items behind quote triple inside next =>
    obtain ⟨behind, rfl⟩ := List.head?_eq_some_iff.1 next
    have rest' : cur.rest = q :: (items ++ '\n' :: behind) := by simpa using rest
    refine ⟨q, _, _, [], rest', .string quote rest' (rest ▸ tripleQuote?_eq_none triple), ?_⟩
    rw [inside.body_append, StringEnd.broken.body_eq quote,
      take_lexemes cur _ (List.cons_ne_nil _ _), List.append_nil]
    rfl
  | @openString q items quote triple inside =>
    have rest' : cur.rest = q :: (items ++ []) := by simpa using rest
    have none := tripleQuote?_eq_none triple
    refine ⟨q, _, _, [], rest', .string quote rest' (by simpa [rest'] using none), ?_⟩
    rw [inside.body_append, StringEnd.unclosed.body_eq quote,
      take_lexemes cur _ (List.cons_ne_nil _ _), List.append_nil]
    rfl
  | @openEscape q items quote triple inside =>
    have rest' : cur.rest = q :: (items ++ ['\\']) := by simpa using rest
    have none := tripleQuote?_eq_none triple
    refine ⟨q, _, _, [], rest', .string quote rest' (by simpa [rest'] using none), ?_⟩
    rw [inside.body_append, StringEnd.escape.body_eq quote,
      take_lexemes cur _ (List.cons_ne_nil _ _)]
    rfl
  | @number d text behind digit all next =>
    have run : leadingNumber cur.rest = d :: text := by
      rw [rest]
      exact leadingNumber_append digit all next
    refine ⟨d, text ++ behind, _, [], rest, .number digit, ?_⟩
    rw [run, take_lexemes cur _ ne]
  | @fraction d text behind digit all next =>
    have run : leadingNumber (d :: (text ++ behind)) = d :: text :=
      leadingNumber_append digit all next
    have rest' : cur.rest = '.' :: d :: (text ++ behind) := rest
    refine ⟨'.', d :: (text ++ behind), _, [], rest', .fraction rfl rest' digit, ?_⟩
    rw [run, take_lexemes cur _ ne]
  | @word c text behind starts digit all next =>
    have starts := (startsWord_iff c).2 starts
    have run : leadingWord cur.rest = c :: text := by
      rw [rest, List.cons_append, leadingWord_cons _ starts]
      congr 1
      refine takeWhile_append_eq (fun d mem => (continuesWord_iff d).2 (all d mem)) fun n mem => ?_
      exact not_wordChar_iff.1 (next n mem)
    refine ⟨c, text ++ behind, _, [], rest, .word starts digit rest, ?_⟩
    rw [run, classify_eq, take_lexemes cur _ ne]
    rfl
  | @comment text behind no_newline next =>
    have all : ∀ c ∈ '#' :: text, (c != '\n') = true := by
      intro c mem
      rw [bne_iff_ne]
      rintro rfl
      simp [no_newline] at mem
    have run : leadingLine cur.rest = '#' :: text := by
      rw [rest]
      exact takeWhile_append_eq all fun n mem => by simp [next n mem]
    refine ⟨'#', text ++ behind, _, [], rest, .comment rfl, ?_⟩
    rw [run, take_lexemes cur _ ne]
  | dot next => exact ⟨'.', behind, _, _, rest, .member rfl rest next, rfl⟩
  | @punct c behind white quote digit continues dot hash =>
    exact ⟨c, behind, _, [], rest, .punct white quote digit (not_wordChar_iff.1 continues) dot hash,
      take_lexemes cur _ ne⟩
  | @stalled c behind white digit continues starts =>
    exact ⟨c, behind, _, [], rest, .stalled white digit ((continuesWord_iff c).2 continues)
      (not_wordStart_iff.1 starts), take_lexemes cur _ ne⟩

/-- At a place, where no dot stands before it, one stretch of one kind at most obeys the grammar. -/
lemma unique_of_free {cur : Cursor} {k k' : Kind} {text text' behind behind' : Text}
    (rule : Lexical false k text behind) (ne : text ≠ []) (rest : cur.rest = text ++ behind)
    (rule' : Lexical false k' text' behind') (ne' : text' ≠ [])
    (rest' : cur.rest = text' ++ behind') : k = k' ∧ text = text' := by
  obtain ⟨c, t, s, more, head, turn, e⟩ := rule.turn ne rest
  obtain ⟨c', t', s', more', head', turn', e'⟩ := rule'.turn ne' rest'
  have same : s = s' := by
    have ok := step_of_turn head turn
    rw [step_of_turn head' turn'] at ok
    cases ok
    rfl
  subst same
  rw [e] at e'
  have lexemes : cur.lexeme k text = cur.lexeme k' text' := (List.cons.inj e').1
  exact ⟨congrArg (·.kind) lexemes, congrArg (·.text) lexemes⟩

/-- At a place one stretch of one kind at most obeys the grammar. -/
lemma unique {member : Bool} {cur : Cursor} {k k' : Kind} {text text' behind behind' : Text}
    (rule : Lexical member k text behind) (ne : text ≠ []) (rest : cur.rest = text ++ behind)
    (rule' : Lexical member k' text' behind') (ne' : text' ≠ [])
    (rest' : cur.rest = text' ++ behind') : k = k' ∧ text = text' := by
  obtain ⟨same, rfl⟩ :=
    (rule.recast false).unique_of_free ne rest (rule'.recast false) ne' rest'
  refine ⟨?_, rfl⟩
  calc
    k = (k.recast false text).recast member text := by rw [Kind.recast_recast, rule.recast_self]
    _ = (k'.recast false text).recast member text := by rw [same]
    _ = k' := by rw [Kind.recast_recast, rule'.recast_self]

end Lexical

end Highlight
