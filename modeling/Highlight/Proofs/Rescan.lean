import Highlight.Proofs.Lookahead
import Highlight.Proofs.Parsing

/-!
# Scanning again

A scan has no memory but its place. Begun again at one of its own lexemes it finds the lexemes from
there on, and begun on the text of one lexeme alone it finds that lexeme. A name behind a lone dot
is the one exception: without the dot it is classified like any other word.

Both facts are about parses of the lexical grammar, which a source has one of (`scan_of_parses`). A
parse can be cut in two (`Parses.split`), moved to another offset (`Parses.shift`), and read under
another flag (`Parses.recast`).
-/

namespace Highlight

/-! ### Other offsets -/

/-- A token with `n` more bytes before it. -/
def Token.shift (n : Nat) (t : Token) : Token :=
  ⟨t.kind, n + t.span.start, n + t.span.stop⟩

/-- A lexeme with `n` more bytes before it. -/
def Lexeme.shift (n : Nat) (l : Lexeme) : Lexeme := ⟨l.toToken.shift n, l.text⟩

/-- To shift lexemes is to shift their tokens. -/
lemma map_toToken_shift (n : Nat) (lexemes : List Lexeme) :
    (lexemes.map Lexeme.toToken).map (Token.shift n) =
      (lexemes.map (Lexeme.shift n)).map Lexeme.toToken := by
  rw [List.map_map, List.map_map]
  rfl

namespace Cursor

/-- A place with `n` more bytes before it. -/
def shift (n : Nat) (cur : Cursor) : Cursor := ⟨n + cur.offset, cur.rest⟩

/-- A lexeme is shifted with its place. -/
lemma lexeme_shift (n : Nat) (cur : Cursor) (kind : Kind) (text : Text) :
    (cur.shift n).lexeme kind text = (cur.lexeme kind text).shift n := by
  simp [lexeme, shift, Lexeme.shift, Token.shift, Nat.add_assoc]

/-- A cursor goes on the same way further on. -/
lemma advance_shift (n : Nat) (cur : Cursor) (text : Text) :
    (cur.shift n).advance text = (cur.advance text).shift n := by
  simp [advance, shift, Nat.add_assoc]

/-- What stands before a place does not matter to a parse, but for the dot. -/
lemma Parses.shift {m m' : Bool} {cur last : Cursor} {lexemes : List Lexeme} (n : Nat)
    (parses : Parses m cur lexemes m' last) :
    Parses m (cur.shift n) (lexemes.map (Lexeme.shift n)) m' (last.shift n) := by
  induction parses with
  | nil => exact .nil
  | cons ne rest rule _ ih =>
    rw [List.map_cons, ← lexeme_shift]
    refine .cons ne rest rule ?_
    rw [advance_shift]
    exact ih

/-! ### Other flags -/

/-- Under another flag the first lexeme of a parse may have another kind, and that is all. -/
lemma Parses.recast {m m' : Bool} {cur last : Cursor} {l : Lexeme} {lexemes : List Lexeme}
    (parses : Parses m cur (l :: lexemes) m' last) (member : Bool) :
    Parses member cur ({ l with kind := l.kind.recast member l.text } :: lexemes) m' last := by
  obtain ⟨behind, e, ne, rest, rule, parses⟩ := parses.head_inv
  have recast : { l with kind := l.kind.recast member l.text } =
      cur.lexeme (l.kind.recast member l.text) l.text := by
    rw [e]
    rfl
  rw [recast]
  refine .cons ne rest (rule.recast member) ?_
  rw [isLoneDot_recast]
  exact parses

/-- The flag behind some lexemes: the last of them is a lone dot. -/
def flagBehind (member : Bool) (lexemes : List Lexeme) : Bool :=
  lexemes.getLast?.elim member fun l => isLoneDot l.kind l.text

/-- A parse can be cut between any two lexemes. -/
lemma Parses.split {m m' : Bool} {cur last : Cursor} {before after : List Lexeme}
    (parses : Parses m cur (before ++ after) m' last) :
    ∃ mid, Parses m cur before (flagBehind m before) mid ∧
      Parses (flagBehind m before) mid after m' last := by
  induction before generalizing m cur with
  | nil => exact ⟨cur, .nil, parses⟩
  | cons l before ih =>
    rw [List.cons_append] at parses
    cases parses with
    | cons ne rest rule parses =>
      obtain ⟨mid, first, second⟩ := ih parses
      rw [flagBehind, Token.getLast?_cons_elim]
      exact ⟨mid, .cons ne rest rule first, second⟩

/-! ### The parse of a source -/

/-- The lexemes of a scan are a parse of its source. -/
lemma scan_parses (source : Text) :
    ∃ lexemes member last, scan source = .ok ⟨source, lexemes⟩ ∧
      Parses false (start source) lexemes member last ∧ last.rest = [] := by
  obtain ⟨lexemes, runs, ok⟩ := scan_runs source
  obtain ⟨member, last, parses, nil⟩ := runs.parses (ready_false _)
  exact ⟨lexemes, member, last, ok, parses, nil⟩

/-- A source has one parse, which is its scan. -/
lemma scan_of_parses {source : Text} {lexemes : List Lexeme} {member : Bool} {last : Cursor}
    (parses : Parses false (start source) lexemes member last) (nil : last.rest = []) :
    scan source = .ok ⟨source, lexemes⟩ := by
  obtain ⟨lexemes', member', last', ok, parses', nil'⟩ := scan_parses source
  rw [ok, parses.unique nil parses' nil']

/-- A text that obeys the grammar alone is scanned as one lexeme. -/
lemma scan_of_lexical {kind : Kind} {text : Text} (rule : Lexical false kind text [])
    (ne : text ≠ []) : scan text = .ok ⟨text, [⟨⟨kind, 0, text.size⟩, text⟩]⟩ := by
  have parses : Parses false (start text) [(start text).lexeme kind text]
      (isLoneDot kind text) ((start text).advance text) :=
    .cons ne (List.append_nil text).symm rule .nil
  rw [scan_of_parses parses (by simp [advance, start])]
  simp [lexeme, start]

end Cursor

/-! ### Lexemes of a scan -/

/-- Whether a lexeme with others before it is the name of a member: a word directly behind a lone
dot. -/
def Lexeme.namesMember (before : List Lexeme) (l : Lexeme) : Bool :=
  l.kind.isWord && before.getLast?.any fun d => isLoneDot d.kind d.text

/-- A word names a member if a lone dot stands before it. -/
lemma Lexeme.namesMember_eq (before : List Lexeme) (l : Lexeme) :
    l.namesMember before = (l.kind.isWord && Cursor.flagBehind false before) := by
  unfold namesMember Cursor.flagBehind
  cases before.getLast? with
  | none => rfl
  | some d => rfl

namespace Lexical

variable {before : List Lexeme} {l : Lexeme} {behind : Text}

/-- Where no dot stands before it, the name of a member is classified by its text. -/
lemma recast_of_namesMember
    (rule : Lexical (Cursor.flagBehind false before) l.kind l.text behind) :
    l.kind.recast false l.text = if l.namesMember before then classify l.text else l.kind := by
  rw [Lexeme.namesMember_eq]
  cases flag : Cursor.flagBehind false before with
  | false =>
    rw [flag] at rule
    rw [rule.recast_self, Bool.and_false]
    rfl
  | true =>
    rw [Kind.recast, Bool.and_true]
    rfl

/-- What names a member is a name. -/
lemma eq_ident_of_namesMember
    (rule : Lexical (Cursor.flagBehind false before) l.kind l.text behind)
    (names : l.namesMember before = true) : l.kind = .ident := by
  rw [Lexeme.namesMember_eq, Bool.and_eq_true] at names
  rw [names.2] at rule
  exact rule.eq_ident names.1

end Lexical

/-- A lexeme of a scan obeys the grammar. -/
lemma Scan.lexical_of_cut {source : Text} {s : Scan} {before after : List Lexeme} {l : Lexeme}
    (ok : scan source = .ok s) (cut : s.lexemes = before ++ l :: after) :
    ∃ behind, l.text ≠ [] ∧ Lexical (Cursor.flagBehind false before) l.kind l.text behind := by
  obtain ⟨lexemes, member, last, ok', parses, -⟩ := Cursor.scan_parses source
  rw [ok] at ok'
  cases ok'
  obtain rfl : lexemes = before ++ l :: after := cut
  obtain ⟨mid, -, second⟩ := parses.split
  obtain ⟨behind, -, ne, -, rule, -⟩ := second.head_inv
  exact ⟨behind, ne, rule⟩

/-- Begun again at a lexeme of its own, a scan finds the lexemes from there on, at offsets that are
less by the offset of that lexeme. Only if the lexeme names a member, it is now classified by its
text. -/
theorem scan_from_lexeme (source : Text) :
    ∃ s, scan source = .ok s ∧
      ∀ before l after, s.lexemes = before ++ l :: after →
        ∃ rest again, source.from? l.span.start = some rest ∧
          scan rest = .ok again ∧
          again.lexemes.map (Lexeme.shift l.span.start) =
            { l with kind := if l.namesMember before then classify l.text else l.kind } ::
              after := by
  obtain ⟨lexemes, member, last, ok, parses, nil⟩ := Cursor.scan_parses source
  refine ⟨_, ok, ?_⟩
  rintro before l after rfl
  obtain ⟨mid, first, second⟩ := parses.split
  obtain ⟨behind, e, -, -, rule, -⟩ := second.head_inv
  have offset : l.span.start = mid.offset := congrArg (·.span.start) e
  have from_start : source.from? mid.offset = some mid.rest :=
    Text.from?_eq_some.2 (Cursor.at?_eq_some.1 (first.leads.placed (Cursor.at?_start source)))
  obtain ⟨again, member', last', ok', parses', nil'⟩ := Cursor.scan_parses mid.rest
  rw [offset]
  refine ⟨mid.rest, _, from_start, ok', ?_⟩
  -- the new scan and the rest of the old one are parses at `mid` where no dot counts
  have free := second.recast false
  rw [rule.recast_of_namesMember] at free
  exact (parses'.shift mid.offset).unique nil' free nil

/-- Begun again behind the dot of `.in`, a scan finds a keyword where there was a name. -/
theorem scan_from_member_name :
    ∃ s, scan ['.', 'i', 'n'] = .ok s ∧
      s.lexemes = [⟨⟨.punct, 0, 1⟩, ['.']⟩] ++ ⟨⟨.ident, 1, 3⟩, ['i', 'n']⟩ :: [] ∧
      ∃ again, scan ['i', 'n'] = .ok again ∧
        again.lexemes.map (Lexeme.shift 1) = [⟨⟨.keyword, 1, 3⟩, ['i', 'n']⟩] := by
  have letters : WordStart 'i' ∧ WordChar 'n' :=
    ⟨.inl (by decide +kernel), .inl (by decide +kernel)⟩
  have dot : Lexical false .punct ['.'] ['i', 'n'] := by
    refine .dot fun n mem => ?_
    cases mem
    rfl
  have name : Lexical true .ident ['i', 'n'] [] :=
    .word letters.1 rfl (List.forall_mem_singleton.2 letters.2) (by simp)
  have ok : scan ['.', 'i', 'n'] =
      .ok ⟨['.', 'i', 'n'], [⟨⟨.punct, 0, 1⟩, ['.']⟩, ⟨⟨.ident, 1, 3⟩, ['i', 'n']⟩]⟩ :=
    Cursor.scan_of_parses (.cons (by simp) rfl dot (.cons (by simp) rfl name .nil)) rfl
  obtain ⟨s, ok', restart⟩ := scan_from_lexeme ['.', 'i', 'n']
  rw [ok] at ok'
  cases ok'
  obtain ⟨rest, again, from_start, ok'', e⟩ :=
    restart [⟨⟨.punct, 0, 1⟩, ['.']⟩] ⟨⟨.ident, 1, 3⟩, ['i', 'n']⟩ [] rfl
  cases from_start
  have keyword : classify ['i', 'n'] = .keyword := by decide +kernel
  refine ⟨_, ok, rfl, again, ok'', e.trans ?_⟩
  rw [← keyword]
  rfl

/-- The text of a lexeme, scanned alone, is one lexeme of the same kind, unless it names a member:
then it was a name and is classified now. So a text has one kind wherever it stands, member names
aside. -/
theorem scan_text_of_lexeme (source : Text) :
    ∃ s, scan source = .ok s ∧
      ∀ before l after, s.lexemes = before ++ l :: after →
        scan l.text = .ok ⟨l.text,
          [⟨⟨if l.namesMember before then classify l.text else l.kind, 0, l.text.size⟩, l.text⟩]⟩ ∧
        (l.namesMember before = true → l.kind = .ident) ∧
        ∀ source' s' before' l' after', scan source' = .ok s' →
          s'.lexemes = before' ++ l' :: after' →
          l'.text = l.text →
          l.namesMember before = false →
          l'.namesMember before' = false →
          l'.kind = l.kind := by
  obtain ⟨lexemes, member, last, ok, -, -⟩ := Cursor.scan_parses source
  refine ⟨_, ok, ?_⟩
  intro before l after cut
  obtain ⟨behind, ne, rule⟩ := Scan.lexical_of_cut ok cut
  have alone := Cursor.scan_of_lexical (rule.alone.recast false) ne
  rw [rule.recast_of_namesMember] at alone
  refine ⟨alone, rule.eq_ident_of_namesMember, ?_⟩
  intro source' s' before' l' after' ok' cut' same free free'
  obtain ⟨behind', ne', rule'⟩ := Scan.lexical_of_cut ok' cut'
  have alone' := Cursor.scan_of_lexical (rule'.alone.recast false) ne'
  rw [rule'.recast_of_namesMember, free'] at alone'
  rw [free, ← same, alone'] at alone
  simpa using alone

/-- A quote that a newline follows is an unclosed string, and it is one alone. -/
theorem scan_text_of_broken_string :
    ∃ s, scan ['"', '\n'] = .ok s ∧
      s.lexemes = [] ++ ⟨⟨.unterminatedString, 0, 1⟩, ['"']⟩ :: [⟨⟨.whitespace, 1, 2⟩, ['\n']⟩] ∧
      scan ['"'] = .ok ⟨['"'], [⟨⟨.unterminatedString, 0, 1⟩, ['"']⟩]⟩ := by
  have broken : Lexical false .unterminatedString ['"'] ['\n'] :=
    .brokenString rfl (by decide) .nil rfl
  have newline : isWhiteSpace '\n' = true := by decide +kernel
  have white : Lexical false .whitespace ['\n'] [] :=
    .whitespace (List.forall_mem_singleton.2 newline) (by simp)
  have ok : scan ['"', '\n'] = .ok ⟨['"', '\n'],
      [⟨⟨.unterminatedString, 0, 1⟩, ['"']⟩, ⟨⟨.whitespace, 1, 2⟩, ['\n']⟩]⟩ :=
    Cursor.scan_of_parses (.cons (by simp) rfl broken (.cons (by simp) rfl white .nil)) rfl
  obtain ⟨s, ok', alone⟩ := scan_text_of_lexeme ['"', '\n']
  rw [ok] at ok'
  cases ok'
  exact ⟨_, ok, rfl, (alone [] ⟨⟨.unterminatedString, 0, 1⟩, ['"']⟩ _ rfl).1⟩

end Highlight
