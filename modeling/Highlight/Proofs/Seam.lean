import Highlight.Proofs.Rescan

/-!
# Seams

What becomes of the lexemes of a text when another text is put behind it. All but the last one
stay, since each of them has seen the character behind it (`Parses.extend`), and the last one is
scanned anew. Whether it stays too, so that the two texts can be scanned apart, is decided by the
next character, and by the next lexeme if it is a lone dot.
-/

namespace Highlight

namespace Cursor

/-- The same place in a text that goes on with `t`. -/
def extend (t : Text) (cur : Cursor) : Cursor := ⟨cur.offset, cur.rest ++ t⟩

/-- A cursor goes on the same way where more text follows. -/
lemma advance_extend {cur : Cursor} {text behind : Text} (rest : cur.rest = text ++ behind)
    (t : Text) : (cur.extend t).advance text = (cur.advance text).extend t := by
  simp [advance, extend, rest]

/-- More text behind a place that is not the end changes nothing before it. -/
lemma Parses.extend {m m' : Bool} {cur last : Cursor} {lexemes : List Lexeme}
    (parses : Parses m cur lexemes m' last) (more : last.rest ≠ []) (t : Text) :
    Parses m (cur.extend t) lexemes m' (last.extend t) := by
  induction parses with
  | nil => exact .nil
  | @cons m cur kind text behind lexemes m' last ne rest rule parses ih =>
    have ne_behind : behind ≠ [] := by
      have e := parses.leads.rest_eq
      rw [show (cur.advance text).rest = behind by simp [advance, rest]] at e
      rw [e]
      exact List.append_ne_nil_of_right_ne_nil _ more
    show Parses m (cur.extend t) ((cur.extend t).lexeme kind text :: lexemes) m' (last.extend t)
    refine .cons ne ?_ (rule.append_behind ne_behind t) ?_
    · rw [Cursor.extend, rest, List.append_assoc]
    · rw [advance_extend rest]
      exact ih more

/-- From every place a parse goes to the end, under either flag. -/
lemma exists_parses (member : Bool) (cur : Cursor) :
    ∃ lexemes m last, Parses member cur lexemes m last ∧ last.rest = [] := by
  obtain ⟨lexemes, runs, -⟩ := scanBehind_runs cur #[]
  obtain ⟨m, last, parses, nil⟩ := runs.parses (ready_false cur)
  cases lexemes with
  | nil =>
    cases parses
    exact ⟨[], member, cur, .nil, nil⟩
  | cons l lexemes => exact ⟨_, m, last, parses.recast member, nil⟩

/-- Lexemes before a place that is not the end are found again in a longer text, and from there on
the rest is scanned as the grammar says. -/
lemma Parses.scan_append {m : Bool} {s : Text} {before : List Lexeme} {mid : Cursor}
    (parses : Parses false (start s) before m mid) (more : mid.rest ≠ []) (t : Text) :
    ∃ lexemes m' last, scan (s ++ t) = .ok ⟨s ++ t, before ++ lexemes⟩ ∧
      Parses m (mid.extend t) lexemes m' last ∧ last.rest = [] := by
  obtain ⟨lexemes, m', last, second, nil⟩ := exists_parses m (mid.extend t)
  have first : Parses false (start (s ++ t)) before m (mid.extend t) := parses.extend more t
  exact ⟨lexemes, m', last, scan_of_parses (first.trans second) nil, second, nil⟩

/-- Inversion for the last lexeme of a parse that goes to the end. -/
lemma Parses.last_inv {m m' : Bool} {cur last : Cursor} {before : List Lexeme} {l : Lexeme}
    (parses : Parses m cur (before ++ [l]) m' last) (nil : last.rest = []) :
    ∃ mid, Parses m cur before (flagBehind m before) mid ∧
      last = mid.advance l.text ∧ l = mid.lexeme l.kind l.text ∧ l.text ≠ [] ∧
      mid.rest = l.text ∧ Lexical (flagBehind m before) l.kind l.text [] := by
  obtain ⟨mid, first, second⟩ := parses.split
  obtain ⟨behind, e, ne, rest, rule, last_parses⟩ := second.head_inv
  cases last_parses
  obtain rfl : behind = [] := by simpa [advance, rest] using nil
  rw [List.append_nil] at rest
  exact ⟨mid, first, rfl, e, ne, rest, rule⟩

/-- A text that is not empty has a lexeme. -/
lemma Parses.ne_nil {m m' : Bool} {cur last : Cursor} {lexemes : List Lexeme}
    (parses : Parses m cur lexemes m' last) (nil : last.rest = []) (some : cur.rest ≠ []) :
    lexemes ≠ [] := by
  rintro rfl
  cases parses
  exact some nil

end Cursor

/-- All lexemes of a text but the last one are found again, with their kinds and spans, whatever is
put behind the text. -/
theorem dropLast_lexemes_isPrefix (s t : Text) :
    ∃ a b, scan s = .ok a ∧ scan (s ++ t) = .ok b ∧ a.lexemes.dropLast <+: b.lexemes := by
  obtain ⟨lexemes, m, last, ok, parses, nil⟩ := Cursor.scan_parses s
  rcases List.eq_nil_or_concat' lexemes with rfl | ⟨before, l, rfl⟩
  · obtain ⟨b, _, _, ok', -, -⟩ := Cursor.scan_parses (s ++ t)
    exact ⟨_, _, ok, ok', List.nil_prefix⟩
  · obtain ⟨mid, first, -, -, ne, rest, -⟩ := parses.last_inv nil
    obtain ⟨lexemes, _, _, ok', -, -⟩ := first.scan_append (rest ▸ ne) t
    refine ⟨_, _, ok, ok', ?_⟩
    show (before ++ [l]).dropLast <+: before ++ lexemes
    rw [List.dropLast_concat]
    exact List.prefix_append _ _

/-! ### Two texts at a seam -/

/-- Tokens on a way through a text determine its lexemes. -/
lemma Cursor.Leads.eq_of_tokens {cur last last' : Cursor} {l l' : List Lexeme}
    (leads : Leads cur l last) (leads' : Leads cur l' last')
    (same : l.map (·.toToken) = l'.map (·.toToken)) : l = l' := by
  induction leads generalizing l' with
  | nil =>
    rw [List.map_nil, eq_comm, List.map_eq_nil_iff] at same
    exact same.symm
  | @cons cur kind text lexemes last ne pre _ ih =>
    cases leads' with
    | nil => cases same
    | @cons _ kind' text' lexemes' _ ne' pre' leads' =>
      obtain ⟨head, tail⟩ := List.cons.inj same
      obtain rfl : kind = kind' := congrArg Token.kind head
      have size : Text.size text = Text.size text' :=
        Nat.add_left_cancel (congrArg (·.span.stop) head)
      -- both texts stand at the front of one rest
      have le := Text.length_le_of_size_le pre pre' size.le
      have ge := Text.length_le_of_size_le pre' pre size.ge
      obtain rfl : text = text' :=
        (List.prefix_of_prefix_length_le pre pre' le).eq_of_length (Nat.le_antisymm le ge)
      rw [ih leads' tail]

/-- Of the lexemes on a way those that obey the grammar up to the end are told by their tokens. -/
lemma Cursor.Parses.tokens_eq_iff {m m' : Bool} {cur last last' : Cursor} {l l' : List Lexeme}
    (parses : Parses m cur l m' last) (nil : last.rest = []) (leads : Leads cur l' last') :
    l.map (·.toToken) = l'.map (·.toToken) ↔
      ∃ m' last', Parses m cur l' m' last' ∧ last'.rest = [] := by
  constructor
  · intro same
    obtain rfl := parses.leads.eq_of_tokens leads same
    exact ⟨m', last, parses, nil⟩
  · rintro ⟨_, _, parses', nil'⟩
    rw [parses.unique nil parses' nil']

namespace Lexical

variable {kind : Kind} {text behind : Text}

/-- Behind a dot no word has a meaning of its own. -/
lemma not_mem_of_member (rule : Lexical true kind text behind) :
    kind ∉ [.constant, .keyword, .builtin] := by
  intro mem
  have word : kind.isWord = true := by
    simp only [List.mem_cons, List.not_mem_nil, or_false] at mem
    rcases mem with rfl | rfl | rfl <;> rfl
  rw [rule.eq_ident word] at mem
  simp at mem

/-- A token stays what it is behind a dot, unless it is a word with a meaning of its own. -/
lemma of_not_mem (rule : Lexical false kind text behind) {dot : Bool}
    (plain : dot = true → kind ∉ [.constant, .keyword, .builtin]) :
    Lexical dot kind text behind := by
  cases dot with
  | false => exact rule
  | true =>
    have same : kind.recast true text = kind := by
      have free := plain rfl
      revert free
      cases kind <;> simp [Kind.recast, Kind.isWord]
    rw [← same]
    exact rule.recast true

end Lexical

namespace Cursor

/-- The place behind the last lexeme of a text, where another text follows it. -/
lemma advance_extend_end {mid : Cursor} {text : Text} (rest : mid.rest = text) (t : Text) :
    (mid.extend t).advance text = (start t).shift (mid.advance text).offset := by
  simp [advance, extend, Cursor.shift, start, rest]

section

variable {m : Bool} {mid last : Cursor} {l next : Lexeme} {c : Char} {t : Text}
  {after : List Lexeme}

/-- The last lexeme of a text and the lexemes of another one lead through both texts. -/
lemma Leads.seam (e : l = mid.lexeme l.kind l.text) (ne : l.text ≠ []) (rest : mid.rest = l.text)
    (leads : Leads ((start t).shift (mid.advance l.text).offset) after last) :
    Leads (mid.extend t) (l :: after) last := by
  rw [e]
  refine .cons ne ⟨t, by rw [Cursor.extend, rest]⟩ ?_
  rw [advance_extend_end rest]
  exact leads

/-- They obey the grammar if the two lexemes at the seam go together. -/
lemma Parses.seam_iff {flag : Bool} (e : l = mid.lexeme l.kind l.text) (ne : l.text ≠ [])
    (rest : mid.rest = l.text) (rule : Lexical flag l.kind l.text [])
    (parses : Parses false ((start (c :: t)).shift (mid.advance l.text).offset) (next :: after)
      m last) (nil : last.rest = []) :
    (∃ m' last', Parses flag (mid.extend (c :: t)) (l :: next :: after) m' last' ∧
        last'.rest = []) ↔
      endsBefore l.kind l.text c = true ∧
        (isLoneDot l.kind l.text = true → next.kind ∉ [.constant, .keyword, .builtin]) := by
  constructor
  · rintro ⟨m', last', whole, -⟩
    obtain ⟨behind, -, -, rest', rule', second⟩ := whole.head_inv
    obtain rfl : c :: t = behind := by simpa [Cursor.extend, rest] using rest'
    refine ⟨rule'.endsBefore_of_cons, fun dot => ?_⟩
    rw [dot] at second
    obtain ⟨_, -, -, -, next_rule, -⟩ := second.head_inv
    exact next_rule.not_mem_of_member
  · rintro ⟨ends, plain⟩
    obtain ⟨behind, e', ne', rest', next_rule, tail⟩ := parses.head_inv
    refine ⟨m, last, ?_, nil⟩
    rw [e]
    refine .cons ne (by rw [Cursor.extend, rest]) (rule.cons_of_endsBefore t ends) ?_
    rw [advance_extend_end rest, e']
    exact .cons ne' rest' (next_rule.of_not_mem plain) tail

end

end Cursor

/-- Two texts can be scanned apart exactly if the last lexeme of the first one can end before the
first character of the second one and, where it is a lone dot, the second one does not begin with a
word that has a meaning of its own. -/
theorem scan_append_iff {s t : Text} {c : Char} (ne : s ≠ []) (head : t.head? = some c) :
    ∃ a b whole l next, scan s = .ok a ∧ scan t = .ok b ∧ scan (s ++ t) = .ok whole ∧
      a.lexemes.getLast? = some l ∧ b.lexemes.head? = some next ∧
      (whole.tokens = a.tokens ++ b.tokens.map (Token.shift s.size) ↔
        endsBefore l.kind l.text c = true ∧
          (isLoneDot l.kind l.text = true → next.kind ∉ [.constant, .keyword, .builtin])) := by
  obtain ⟨t, rfl⟩ := List.head?_eq_some_iff.1 head
  obtain ⟨lexemes, m, last, ok, parses, nil⟩ := Cursor.scan_parses s
  obtain ⟨lexemes', m', last', ok', parses', nil'⟩ := Cursor.scan_parses (c :: t)
  obtain ⟨before, l, rfl⟩ := (List.eq_nil_or_concat' lexemes).resolve_left (parses.ne_nil nil ne)
  obtain ⟨next, after, rfl⟩ :=
    List.exists_cons_of_ne_nil (parses'.ne_nil nil' (List.cons_ne_nil c t))
  obtain ⟨mid, first, rfl, e, ne_l, rest, rule⟩ := parses.last_inv nil
  obtain ⟨anew, m'', last'', ok'', second, nil''⟩ := first.scan_append (rest ▸ ne_l) (c :: t)
  refine ⟨_, _, _, l, next, ok, ok', ok'', List.getLast?_concat, rfl, ?_⟩
  have size : s.size = (mid.advance l.text).offset :=
    (Cursor.offset_eq_size (parses.leads.placed (Cursor.at?_start s)) nil).symm
  have shifted := parses'.shift (mid.advance l.text).offset
  have seam := (second.tokens_eq_iff nil'' (.seam e ne_l rest shifted.leads)).trans
    (Cursor.Parses.seam_iff e ne_l rest rule shifted nil')
  rw [← size] at seam
  -- the lexemes before `l` are the same on both sides
  rw [Scan.tokens, Scan.tokens, Scan.tokens, map_toToken_shift, List.map_append, List.map_append,
    List.append_assoc, List.append_cancel_left_eq]
  exact seam

/-- A dot and a keyword cannot be scanned apart: together they are an access to a member. -/
theorem scan_append_dot_keyword :
    ['.'] ≠ [] ∧ ['i', 's'].head? = some 'i' ∧
      ∃ a b whole, scan ['.'] = .ok a ∧ scan ['i', 's'] = .ok b ∧
        scan (['.'] ++ ['i', 's']) = .ok whole ∧
        whole.tokens ≠ a.tokens ++ b.tokens.map (Token.shift 1) := by
  have letters : WordStart 'i' ∧ WordChar 's' :=
    ⟨.inl (by decide +kernel), .inl (by decide +kernel)⟩
  have keyword : wordKind ['i', 's'] = .keyword := by decide +kernel
  have word : Lexical false (wordKind ['i', 's']) ['i', 's'] [] :=
    .word letters.1 rfl (List.forall_mem_singleton.2 letters.2) (by simp)
  have dot : Lexical false .punct ['.'] [] := .dot (by simp)
  obtain ⟨a, b, whole, l, next, ok, ok', ok'', last, first, seam⟩ :=
    @scan_append_iff ['.'] ['i', 's'] 'i' (by simp) rfl
  refine ⟨by simp, rfl, a, b, whole, ok, ok', ok'', fun same => ?_⟩
  have apart := seam.1 same
  rw [keyword] at word
  rw [Cursor.scan_of_lexical dot (by simp)] at ok
  rw [Cursor.scan_of_lexical word (by simp)] at ok'
  cases ok
  cases ok'
  cases last
  cases first
  exact apart.2 rfl (by simp)

end Highlight
