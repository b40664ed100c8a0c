import Highlight.Proofs.Grammar
import Highlight.Proofs.Tiling

/-!
# Scans and the lexical grammar

Of all tokens that tile a source those of its scan are the ones that obey the lexical grammar. A run
obeys it (`Cursor.Runs.parses`), and no two lists of lexemes do (`Cursor.Parses.unique`).

The grammar is stated token by token: `Token.Obeys` looks at the text of one token and at the text
behind it, both cut from the source at the offsets of the token.
-/

namespace Highlight

namespace Cursor

/-- A run obeys the grammar. -/
lemma Runs.parses {cur : Cursor} {lexemes : List Lexeme} {member : Bool} (runs : Runs cur lexemes)
    (ready : Ready member cur) :
    ∃ member' last, Parses member cur lexemes member' last ∧ last.rest = [] := by
  induction runs generalizing member with
  | done nil => exact ⟨member, _, .nil, nil⟩
  | step h _ ih =>
    obtain ⟨c, t, rest, turn⟩ := turn_of_step h
    obtain ⟨mid, first, ready'⟩ := turn.parses rest ready
    obtain ⟨member', last, second, nil⟩ := ih ready'
    exact ⟨member', last, first.trans second, nil⟩

/-- One list of lexemes at most leads to the end of a text and obeys the grammar. -/
lemma Parses.unique {member m₁ m₂ : Bool} {cur last last' : Cursor} {l l' : List Lexeme}
    (first : Parses member cur l m₁ last) (nil : last.rest = [])
    (second : Parses member cur l' m₂ last') (nil' : last'.rest = []) : l = l' := by
  induction first generalizing l' with
  | nil =>
    cases second with
    | nil => rfl
    | cons ne rest => exact absurd (List.append_eq_nil_iff.1 (rest ▸ nil)).1 ne
  | cons ne rest rule _ ih =>
    cases second with
    | nil => exact absurd (List.append_eq_nil_iff.1 (rest ▸ nil')).1 ne
    | cons ne' rest' rule' second =>
      -- both begin with the one stretch that obeys the grammar here
      obtain ⟨rfl, rfl⟩ := rule.unique ne rest rule' ne' rest'
      rw [ih nil second]

/-- Inversion for a lexeme that obeys the grammar before others. -/
lemma Parses.head_inv {m m' : Bool} {cur last : Cursor} {l : Lexeme} {lexemes : List Lexeme}
    (parses : Parses m cur (l :: lexemes) m' last) :
    ∃ behind, l = cur.lexeme l.kind l.text ∧ l.text ≠ [] ∧ cur.rest = l.text ++ behind ∧
      Lexical m l.kind l.text behind ∧
      Parses (isLoneDot l.kind l.text) (cur.advance l.text) lexemes m' last := by
  cases parses with
  | cons ne rest rule parses => exact ⟨_, rfl, ne, rest, rule, parses⟩

/-- What obeys the grammar leads from one place to another. -/
lemma Parses.leads {m₁ m₂ : Bool} {cur last : Cursor} {lexemes : List Lexeme}
    (parses : Parses m₁ cur lexemes m₂ last) : Leads cur lexemes last := by
  induction parses with
  | nil => exact .nil
  | cons ne rest _ _ ih => exact .cons ne ⟨_, rest.symm⟩ ih

end Cursor

namespace Token

/-- A token obeys the grammar in a source: its text is of its kind where the rest of the source
follows. The flag says that a dot stands directly before it. -/
def Obeys (source : Text) (member : Bool) (token : Token) : Prop :=
  ∃ text behind, source.slice? token.span.start token.span.stop = some text ∧
    source.from? token.span.stop = some behind ∧ Lexical member token.kind text behind

/-- Whether a token of a source is a dot that stands alone. -/
def isDot (source : Text) (token : Token) : Bool :=
  token.kind == .punct && source.slice? token.span.start token.span.stop == some ['.']

/-- All tokens of a list obey the grammar. The flag is that of the first one. -/
def AllObey (source : Text) : Bool → List Token → Prop
  | _, [] => True
  | member, token :: tokens =>
    token.Obeys source member ∧ AllObey source (token.isDot source) tokens

/-- The last member behind another one. -/
lemma getLast?_cons_elim {α β : Type} (a : α) (l : List α) (b : β) (f : α → β) :
    (a :: l).getLast?.elim b f = l.getLast?.elim (f a) f := by
  rw [List.getLast?_cons]
  cases l.getLast? with
  | none => rfl
  | some _ => rfl

/-- All tokens obey the grammar if each does, with the flag that the token before it gives. -/
lemma allObey_iff {source : Text} {member : Bool} {tokens : List Token} :
    AllObey source member tokens ↔
      ∀ before token after, tokens = before ++ token :: after →
        token.Obeys source (before.getLast?.elim member (isDot source)) := by
  induction tokens generalizing member with
  | nil => simp [AllObey]
  | cons token tokens ih =>
    rw [AllObey, ih]
    constructor
    · rintro ⟨head, tail⟩ before token' after e
      cases before with
      | nil =>
        cases e
        exact head
      | cons first before =>
        obtain ⟨rfl, e'⟩ := List.cons.inj e
        rw [getLast?_cons_elim]
        exact tail before token' after e'
    · intro h
      refine ⟨h [] token tokens rfl, ?_⟩
      rintro before token' after rfl
      have obeys := h (token :: before) token' after rfl
      rwa [getLast?_cons_elim] at obeys

end Token

namespace Cursor

/-- The text of a lexeme and the text behind it, cut from the source. -/
lemma slice?_lexeme {source : Text} {cur : Cursor} {text behind : Text} (kind : Kind)
    (placed : at? source cur.offset = some cur) (rest : cur.rest = text ++ behind) :
    source.slice? (cur.lexeme kind text).span.start (cur.lexeme kind text).span.stop = some text ∧
      source.from? (cur.lexeme kind text).span.stop = some behind := by
  obtain ⟨front, rfl, sz⟩ := at?_eq_some.1 placed
  constructor
  · exact Text.slice?_eq_some.2 ⟨front, behind, by rw [rest], sz, rfl⟩
  · refine Text.from?_eq_some.2 ⟨front ++ text, by rw [rest, List.append_assoc], ?_⟩
    rw [Text.size_append, sz]
    rfl

/-- A lexeme obeys the grammar in its source exactly if its text does. -/
lemma obeys_lexeme {source : Text} {cur : Cursor} {text behind : Text} {kind : Kind} {member : Bool}
    (placed : at? source cur.offset = some cur) (rest : cur.rest = text ++ behind) :
    (cur.lexeme kind text).toToken.Obeys source member ↔ Lexical member kind text behind := by
  obtain ⟨slice, from_stop⟩ := slice?_lexeme kind placed rest
  constructor
  · rintro ⟨text', behind', slice', from_stop', rule⟩
    rw [slice] at slice'
    rw [from_stop] at from_stop'
    cases slice'
    cases from_stop'
    exact rule
  · intro rule
    exact ⟨text, behind, slice, from_stop, rule⟩

/-- Lexemes on a way through a source obey the grammar on the way exactly if they do so in the
source. -/
lemma Leads.parses_iff {source : Text} {cur last : Cursor} {lexemes : List Lexeme} {member : Bool}
    (leads : Leads cur lexemes last) (placed : at? source cur.offset = some cur) :
    (∃ member', Parses member cur lexemes member' last) ↔
      Token.AllObey source member (lexemes.map (·.toToken)) := by
  induction leads generalizing member with
  | nil => exact ⟨fun _ => trivial, fun _ => ⟨member, .nil⟩⟩
  | @cons cur kind text lexemes last ne pre leads ih =>
    obtain ⟨behind, rest⟩ := pre
    have tail := @ih (isLoneDot kind text) (at?_advance placed ⟨behind, rest⟩)
    have dot : (cur.lexeme kind text).toToken.isDot source = isLoneDot kind text := by
      rw [Token.isDot, (slice?_lexeme kind placed rest.symm).1]
      rfl
    rw [List.map_cons, Token.AllObey, obeys_lexeme placed rest.symm, dot, ← tail]
    constructor
    · rintro ⟨member', parses⟩
      obtain ⟨behind', -, -, rest', rule, parses'⟩ := parses.head_inv
      obtain rfl := List.append_cancel_left (rest.trans rest')
      exact ⟨rule, member', parses'⟩
    · rintro ⟨rule, member', parses⟩
      exact ⟨member', .cons ne rest.symm rule parses⟩

end Cursor

/-- The tokens of a scan are the ones among all that tile the source of which each obeys the lexical
grammar, where the token before it may be a lone dot. -/
theorem tokens_eq_scan_iff_obey {source : Text} {tokens : List Token}
    (tiling : Tiling source 0 (tokens.map (·.span))) :
    (∃ s, scan source = .ok s ∧ s.tokens = tokens) ↔
      ∀ before token after, tokens = before ++ token :: after →
        token.Obeys source (before.getLast?.elim false (Token.isDot source)) := by
  have start := Cursor.at?_start source
  obtain ⟨scanned, runs, ok⟩ := Cursor.scan_runs source
  obtain ⟨m, last, parses, nil⟩ := runs.parses (Cursor.ready_false _)
  rw [← Token.allObey_iff]
  constructor
  · rintro ⟨s, ok', rfl⟩
    rw [ok] at ok'
    cases ok'
    exact (parses.leads.parses_iff start).1 ⟨m, parses⟩
  · intro obey
    have tiling' : Tiling source (Cursor.start source).offset (tokens.map (·.span)) := tiling
    obtain ⟨lexemes, last', rfl, leads, nil'⟩ := tiling'.exists_leads start
    obtain ⟨m', parses'⟩ := (leads.parses_iff start).2 obey
    obtain rfl := parses.unique nil parses' nil'
    exact ⟨_, ok, rfl⟩

/-- A keyword behind a dot is a name: two tokens of `.if` obey the grammar, so they are its scan. -/
theorem member_tokens_obey :
    Tiling ['.', 'i', 'f'] 0 [⟨0, 1⟩, ⟨1, 3⟩] ∧
      ∃ s, scan ['.', 'i', 'f'] = .ok s ∧ s.tokens = [⟨.punct, 0, 1⟩, ⟨.ident, 1, 3⟩] := by
  have tiling : Tiling ['.', 'i', 'f'] 0 [⟨0, 1⟩, ⟨1, 3⟩] :=
    ⟨by decide, by decide, by decide, by decide, by decide, by decide⟩
  have iff := @tokens_eq_scan_iff_obey ['.', 'i', 'f'] [⟨.punct, 0, 1⟩, ⟨.ident, 1, 3⟩] tiling
  have letters : WordStart 'i' ∧ WordChar 'f' :=
    ⟨.inl (by decide +kernel), .inl (by decide +kernel)⟩
  have dot : Lexical false .punct ['.'] ['i', 'f'] := by
    refine .dot fun n mem => ?_
    cases mem
    rfl
  have name : Lexical true .ident ['i', 'f'] [] :=
    .word letters.1 rfl (List.forall_mem_singleton.2 letters.2) nofun
  refine ⟨tiling, iff.2 (Token.allObey_iff.1 ⟨?_, ?_, trivial⟩)⟩
  · exact ⟨_, _, rfl, rfl, dot⟩
  · exact ⟨_, _, rfl, rfl, name⟩

end Highlight
