import Highlight.Proofs.Offsets

/-!
# Scans tile their source

A scan is total and loses nothing: its spans cut the source at boundaries, one behind the other and
none of them empty, so that every byte of the source is covered once.

The way there: a step leads from a place to a place (`Cursor.Turn.leads`), so a run leads from the
start to the end of the source (`Cursor.Runs.leads`), and lexemes on a way through the source are a
tiling of it (`Tiling.of_leads`). The converse, `Tiling.exists_leads`, gives the lexemes of any
tokens that tile a source.
-/

namespace Highlight

/-- The spans cut a text from an offset on into pieces, each of whole characters and none of them
empty. -/
structure Tiling (source : Text) (offset : Nat) (spans : List Span) : Prop where
  first : ∀ a ∈ spans.head?, a.start = offset
  adjacent : spans.IsChain fun a b => a.stop = b.start
  nonempty : ∀ a ∈ spans, a.start < a.stop
  boundaries : ∀ a ∈ spans, source.IsBoundary a.start ∧ source.IsBoundary a.stop
  last : ∀ a ∈ spans.getLast?, a.stop = source.size
  complete : spans = [] → offset = source.size

/-- Whether a span covers the byte at an offset. -/
def Span.covers (a : Span) (n : Nat) : Bool := a.start ≤ n && n < a.stop

/-- A span covers the bytes from its start up to its end. -/
lemma Span.covers_iff {a : Span} {n : Nat} : a.covers n = true ↔ a.start ≤ n ∧ n < a.stop := by
  simp [covers]

namespace Cursor

/-! ### Runs -/

/-- A scan from a place to the end of the text, with the lexemes that it finds. -/
inductive Runs : Cursor → List Lexeme → Prop where
  | done {cur} :
    cur.rest = [] →
    Runs cur []
  | step {cur s lexemes} :
    cur.step = .ok (some s) →
    Runs s.next lexemes →
    Runs cur (s.lexemes ++ lexemes)

/-- The places that a scan comes to from a place. -/
inductive Reaches : Cursor → Cursor → Prop where
  | refl {cur} :
    Reaches cur cur
  | step {cur mid s} :
    Reaches cur mid →
    mid.step = .ok (some s) →
    Reaches cur s.next

/-- A scan from any place runs to the end. -/
lemma scanBehind_runs (cur : Cursor) (found : Array Lexeme) :
    ∃ lexemes, Runs cur lexemes ∧ cur.scanBehind found = .ok (found ++ lexemes) := by
  fun_induction scanBehind cur found with
  | case1 cur found e h => exact absurd h (step_ne_error cur e)
  | case2 cur found h => exact ⟨[], .done (rest_eq_nil_of_step h), by simp⟩
  | case3 cur found s h ih =>
    obtain ⟨lexemes, runs, e⟩ := ih
    refine ⟨s.lexemes ++ lexemes, .step h runs, ?_⟩
    rw [e]
    exact congrArg Except.ok (Array.ext' (by simp))

/-- A scan of a source succeeds with the lexemes of a run. -/
lemma scan_runs (source : Text) :
    ∃ lexemes, Runs (start source) lexemes ∧ scan source = .ok ⟨source, lexemes⟩ := by
  obtain ⟨lexemes, runs, e⟩ := scanBehind_runs (start source) #[]
  refine ⟨lexemes, runs, ?_⟩
  rw [scan, e]
  simp

/-- A run leads to the end of the text. -/
lemma Runs.leads {cur : Cursor} {lexemes : List Lexeme} (runs : Runs cur lexemes) :
    ∃ last, last.rest = [] ∧ Leads cur lexemes last := by
  induction runs with
  | done rest => exact ⟨_, rest, .nil⟩
  | step h _ ih =>
    obtain ⟨c, t, rest, turn⟩ := turn_of_step h
    obtain ⟨last, nil, leads⟩ := ih
    exact ⟨last, nil, (turn.leads rest).trans leads⟩

/-- The texts of a run make up the source. -/
lemma Runs.flatMap_text {source : Text} {lexemes : List Lexeme}
    (runs : Runs (start source) lexemes) : lexemes.flatMap (·.text) = source := by
  obtain ⟨last, nil, leads⟩ := runs.leads
  have e := leads.rest_eq
  rw [nil, List.append_nil] at e
  exact e.symm

/-- Lexemes lead to every place that a scan comes to. -/
lemma Reaches.leads {cur last : Cursor} (reaches : Reaches cur last) :
    ∃ lexemes, Leads cur lexemes last := by
  induction reaches with
  | refl => exact ⟨[], .nil⟩
  | step _ h ih =>
    obtain ⟨lexemes, leads⟩ := ih
    obtain ⟨c, t, rest, turn⟩ := turn_of_step h
    exact ⟨_, leads.trans (turn.leads rest)⟩

/-! ### Places of a text -/

/-- A cursor is a place of a text if the text goes on with its rest at its offset. -/
lemma at?_eq_some {source : Text} {cur : Cursor} :
    at? source cur.offset = some cur ↔
      ∃ front, source = front ++ cur.rest ∧ front.size = cur.offset := by
  rw [at?, Option.map_eq_some_iff]
  constructor
  · rintro ⟨rest, h, e⟩
    obtain rfl : rest = cur.rest := congrArg Cursor.rest e
    exact Text.from?_eq_some.1 h
  · intro h
    exact ⟨cur.rest, Text.from?_eq_some.2 h, rfl⟩

/-- A scan starts at the front of its source. -/
lemma at?_start (source : Text) : at? source (start source).offset = some (start source) :=
  at?_eq_some.2 ⟨[], rfl, rfl⟩

/-- Behind some text at the front of the rest there is a place again. -/
lemma at?_advance {source : Text} {cur : Cursor} {text : Text}
    (placed : at? source cur.offset = some cur) (pre : text <+: cur.rest) :
    at? source (cur.advance text).offset = some (cur.advance text) := by
  obtain ⟨front, e, sz⟩ := at?_eq_some.1 placed
  obtain ⟨rest, e'⟩ := pre
  refine at?_eq_some.2 ⟨front ++ text, ?_, ?_⟩
  · simp [advance, e, ← e']
  · rw [Text.size_append, sz]
    rfl

/-- Lexemes lead from places of a text to places of the text. -/
lemma Leads.placed {source : Text} {cur last : Cursor} {lexemes : List Lexeme}
    (leads : Leads cur lexemes last) (placed : at? source cur.offset = some cur) :
    at? source last.offset = some last := by
  induction leads with
  | nil => exact placed
  | cons _ pre _ ih => exact ih (at?_advance placed pre)

/-- The one place without a rest is the end. -/
lemma offset_eq_size {source : Text} {cur : Cursor} (placed : at? source cur.offset = some cur)
    (nil : cur.rest = []) : cur.offset = source.size := by
  obtain ⟨front, e, sz⟩ := at?_eq_some.1 placed
  rw [e, nil, List.append_nil, sz]

end Cursor

/-! ### Tilings -/

namespace Tiling

open Cursor

/-- On a way every lexeme is a slice of the text. -/
lemma slice?_of_leads {source : Text} {cur last : Cursor} {lexemes : List Lexeme}
    (leads : Leads cur lexemes last) (placed : at? source cur.offset = some cur) :
    ∀ l ∈ lexemes, l.span.start < l.span.stop ∧
      source.slice? l.span.start l.span.stop = some l.text := by
  induction leads with
  | nil => simp
  | @cons cur kind text lexemes last ne pre _ ih =>
    intro l mem
    rcases List.mem_cons.1 mem with rfl | mem
    · refine ⟨offset_lt_advance cur ne, ?_⟩
      obtain ⟨front, e, sz⟩ := at?_eq_some.1 placed
      obtain ⟨rest, e'⟩ := pre
      exact Text.slice?_eq_some.2 ⟨front, rest, by rw [e, ← e']; rfl, sz, rfl⟩
    · exact ih (at?_advance placed pre) l mem

/-- On a way every lexeme begins where the one before it ends. -/
lemma isChain_of_leads {cur last : Cursor} {lexemes : List Lexeme}
    (leads : Leads cur lexemes last) :
    (lexemes.map (·.span)).IsChain fun a b => a.stop = b.start := by
  induction leads with
  | nil => exact .nil
  | cons _ _ leads ih =>
    cases leads with
    | nil => exact .singleton _
    | cons => exact .cons_cons rfl ih

/-- On a way the last lexeme ends at its end. -/
lemma getLast?_of_leads {cur last : Cursor} {lexemes : List Lexeme}
    (leads : Leads cur lexemes last) : ∀ l ∈ lexemes.getLast?, l.span.stop = last.offset := by
  induction leads with
  | nil => simp
  | cons _ _ leads ih =>
    cases leads with
    | nil =>
      intro l mem
      cases mem
      rfl
    | cons => exact ih

/-- Lexemes on the way to the end of a text are a tiling of it. -/
lemma of_leads {source : Text} {cur last : Cursor} {lexemes : List Lexeme}
    (leads : Leads cur lexemes last) (placed : at? source cur.offset = some cur)
    (nil : last.rest = []) : Tiling source cur.offset (lexemes.map (·.span)) := by
  have slices := slice?_of_leads leads placed
  have at_end := offset_eq_size (leads.placed placed) nil
  refine ⟨?_, isChain_of_leads leads, ?_, ?_, ?_, ?_⟩
  · cases leads with
    | nil => simp
    | cons => simp [lexeme]
  · intro a mem
    obtain ⟨l, mem_l, rfl⟩ := List.mem_map.1 mem
    exact (slices l mem_l).1
  · intro a mem
    obtain ⟨l, mem_l, rfl⟩ := List.mem_map.1 mem
    exact Text.isBoundary_of_slice? (slices l mem_l).2
  · intro a mem
    rw [List.getLast?_map, Option.mem_def, Option.map_eq_some_iff] at mem
    obtain ⟨l, mem_l, rfl⟩ := mem
    rw [getLast?_of_leads leads l mem_l, at_end]
  · intro none
    rw [List.map_eq_nil_iff] at none
    subst none
    cases leads
    exact at_end

/-- On a way to the end of a text every byte from its beginning on is covered once. -/
lemma countP_of_leads {cur last : Cursor} {lexemes : List Lexeme} (leads : Leads cur lexemes last)
    (n : Nat) :
    lexemes.countP (·.span.covers n) = if cur.offset ≤ n ∧ n < last.offset then 1 else 0 := by
  induction leads with
  | nil =>
    rw [List.countP_nil, if_neg (by omega)]
  | @cons cur kind text lexemes last ne _ leads ih =>
    have lt := offset_lt_advance cur ne
    have le := leads.offset_eq
    have covers : (cur.lexeme kind text).span.covers n = true ↔
        cur.offset ≤ n ∧ n < (cur.advance text).offset := Span.covers_iff
    rw [List.countP_cons, ih]
    simp only [covers]
    split_ifs <;> omega

/-- Behind its first span a tiling goes on. -/
lemma tail {source : Text} {offset : Nat} {a : Span} {spans : List Span}
    (tiling : Tiling source offset (a :: spans)) : Tiling source a.stop spans := by
  obtain ⟨-, adjacent, nonempty, boundaries, last, -⟩ := tiling
  cases spans with
  | nil => exact ⟨by simp, .nil, by simp, by simp, by simp, fun _ => last a rfl⟩
  | cons b spans =>
    obtain ⟨e, adjacent⟩ := List.isChain_cons_cons.1 adjacent
    refine ⟨?_, adjacent, ?_, ?_, ?_, ?_⟩
    · intro c mem
      cases mem
      exact e.symm
    · exact fun c mem => nonempty c (List.mem_cons_of_mem _ mem)
    · exact fun c mem => boundaries c (List.mem_cons_of_mem _ mem)
    · exact fun c mem => last c (by simpa using mem)
    · exact fun nil => absurd nil (List.cons_ne_nil _ _)

/-- Tokens that tile a text are those of lexemes on the way to its end. -/
lemma exists_leads {source : Text} {cur : Cursor} {tokens : List Token}
    (tiling : Tiling source cur.offset (tokens.map (·.span)))
    (placed : at? source cur.offset = some cur) :
    ∃ lexemes last, lexemes.map (·.toToken) = tokens ∧ Leads cur lexemes last ∧
      last.rest = [] := by
  obtain ⟨front, e, sz⟩ := at?_eq_some.1 placed
  -- the place moves on with each token, and so does the front before it
  induction tokens generalizing cur front with
  | nil =>
    refine ⟨[], cur, rfl, .nil, ?_⟩
    have at_end := tiling.complete rfl
    rw [e, Text.size_append, sz] at at_end
    rw [← Text.size_eq_zero]
    omega
  | cons token tokens ih =>
    have start : token.span.start = cur.offset := tiling.first _ rfl
    have lt : token.span.start < token.span.stop := tiling.nonempty _ List.mem_cons_self
    have boundary : source.IsBoundary token.span.stop :=
      (tiling.boundaries _ List.mem_cons_self).2
    obtain ⟨upto, behind, e', sz'⟩ := Text.isBoundary_iff.1 boundary
    obtain ⟨text, rfl, rest⟩ := Text.exists_append_of_size_le (e.symm.trans e') (by omega)
    rw [Text.size_append] at sz'
    have ne : text ≠ [] := by
      rw [Ne, ← Text.size_eq_zero]
      omega
    have pre : text <+: cur.rest := ⟨behind, rest.symm⟩
    have stop : (cur.advance text).offset = token.span.stop := by
      rw [← sz', sz]
      rfl
    have placed' := at?_advance placed pre
    obtain ⟨front', e'', sz''⟩ := at?_eq_some.1 placed'
    obtain ⟨lexemes, last, rfl, leads, nil⟩ := ih (stop ▸ tiling.tail) placed' front' e'' sz''
    refine ⟨cur.lexeme token.kind text :: lexemes, last, ?_, .cons ne pre leads, nil⟩
    have same : (cur.lexeme token.kind text).toToken = token := by
      obtain ⟨kind, begins, ends⟩ := token
      simp only at start stop
      simp [lexeme, start, ← stop, advance]
    rw [List.map_cons, same]

end Tiling

/-! ### Safety of a scan -/

/-- All that a scan looks at from a place is text: nothing is cut inside a character or looked for
beyond the end. The forms that can be read there are those that are read by offsets of the source,
with ends that are searched for in its bytes, and so it is of the test for a triple quote. -/
structure Cursor.Safe (source : Text) (cur : Cursor) : Prop where
  placed : Cursor.at? source cur.offset = some cur
  steps : ∀ e, cur.step ≠ .error e
  inside : ∀ form n, Form.readAt form source cur.offset ≠ .error (.outside n)
  opens : (tripleQuote? cur.rest).isSome = opensDocstringAt source cur.offset
  reads : ∀ form find, FindsFirst find →
    Form.readWith find form source cur.offset = (Form.read form cur).mapError .delimiter
  behind : ∀ form reading, Form.read form cur = .ok reading →
    Cursor.at? source reading.next.offset = some reading.next
  line : ∀ reading found, Form.comment.read cur = .ok reading →
    Finds (Text.bytes ['\n']) cur.rest.bytes found →
    reading.next.offset = cur.offset + found.getD cur.rest.size
  docstring : ∀ reading found, Form.docstring.read cur = .ok reading →
    Finds (Text.bytes (cur.rest.take 3)) (Text.bytes (cur.rest.drop 3)) found →
    reading.next.offset = cur.offset + 3 + (found.map (· + 3)).getD (Text.size (cur.rest.drop 3))

namespace Cursor

/-- Every place of a text is safe. -/
lemma safe_of_at? {source : Text} {cur : Cursor} (placed : at? source cur.offset = some cur) :
    Safe source cur := by
  have place : source.from? cur.offset = some cur.rest :=
    Text.from?_eq_some.2 (at?_eq_some.1 placed)
  have reads : ∀ form find, FindsFirst find →
      Form.readWith find form source cur.offset = (Form.read form cur).mapError .delimiter :=
    fun form find finds => Form.readWith_eq_read finds form place
  refine ⟨placed, step_ne_error cur, ?_, isSome_tripleQuote? place, reads, ?_, ?_, ?_⟩
  · intro form n h
    rw [Form.readAt, reads form _ findsFirst_firstOffset?] at h
    cases read : Form.read form cur with
    | ok reading =>
      rw [read] at h
      cases h
    | error e =>
      rw [read] at h
      cases h
  · intro form reading h
    obtain ⟨took, next⟩ := Form.take_of_read h
    rw [next]
    exact at?_advance placed (Form.take_isPrefix took)
  · intro reading found h finds
    obtain ⟨took, next⟩ := Form.take_of_read h
    have text : reading.text = leadingLine cur.rest := (congrArg Taken.text (Except.ok.inj took)).symm
    rw [next, ← size_leadingLine finds, ← text]
    rfl
  · intro reading found h finds
    obtain ⟨took, next⟩ := Form.take_of_read h
    obtain ⟨q, t, quote, rest, text⟩ := triple_of_take_docstring took
    rw [rest] at finds ⊢
    have sz := size_docstringBody (t := t) quote finds
    rw [next, List.drop_succ_cons, List.drop_succ_cons, List.drop_succ_cons, List.drop_zero, ← sz]
    simp only [advance, text, size_triple _ quote]
    omega

end Cursor

/-- A scan of any source succeeds and its tokens tile the source: the spans begin at 0, follow on
one another, hold some whole characters each and end with the source. Their texts make up the
source, there are no more of them than characters, and each byte is covered once, so that no two
stalled tokens share one. No place on the way is inside a character or beyond the end. -/
theorem scan_tiles_source (source : Text) :
    ∃ s, scan source = .ok s ∧
      Tiling source 0 (s.tokens.map (·.span)) ∧
      (∀ l ∈ s.lexemes, source.slice? l.span.start l.span.stop = some l.text) ∧
      s.lexemes.flatMap (·.text) = source ∧
      s.tokens.length ≤ source.length ∧
      (∀ n, s.tokens.countP (·.span.covers n) = if n < source.size then 1 else 0) ∧
      (∀ n, s.tokens.countP (fun t => t.kind == .stalled && t.span.covers n) ≤ 1) ∧
      ∀ cur, Cursor.Reaches (.start source) cur → cur.Safe source := by
  obtain ⟨lexemes, runs, ok⟩ := Cursor.scan_runs source
  obtain ⟨last, nil, leads⟩ := runs.leads
  have start := Cursor.at?_start source
  have texts := runs.flatMap_text
  have once : ∀ n, (lexemes.map (·.toToken)).countP (·.span.covers n) =
      if n < source.size then 1 else 0 := by
    intro n
    have count := Tiling.countP_of_leads leads n
    rw [Cursor.offset_eq_size (leads.placed start) nil] at count
    simp only [Cursor.start, Nat.zero_le, true_and] at count
    rw [List.countP_map]
    exact count
  refine ⟨⟨source, lexemes⟩, ok, ?_, ?_, texts, ?_, once, ?_, ?_⟩
  · rw [Scan.tokens, List.map_map]
    exact Tiling.of_leads leads start nil
  · exact fun l mem => (Tiling.slice?_of_leads leads start l mem).2
  · simpa [Scan.tokens, texts] using leads.length_le
  · intro n
    have le : (lexemes.map (·.toToken)).countP (fun t => t.kind == .stalled && t.span.covers n) ≤
        (lexemes.map (·.toToken)).countP (·.span.covers n) := by
      refine List.countP_mono_left fun t _ h => ?_
      exact (Bool.and_eq_true_iff.1 h).2
    rw [once n] at le
    refine le.trans ?_
    split <;> omega
  · intro cur reaches
    obtain ⟨passed, leads'⟩ := reaches.leads
    exact Cursor.safe_of_at? (leads'.placed start)

end Highlight
