import Highlight.Proofs.Tiling
import Highlight.Proofs.Grammar

/-!
# Progress of a scan

What one step of a scan does at any place of a source, whether a scan comes there or not, and what
follows for the number of steps. `Cursor.Takes` tells the three ways in which a step goes on: by one
token, by one character that is given up, or by a dot and the name behind it. Each of them passes
some character, so that no more steps are made than there are characters (`Cursor.Passes.length_le`).
-/

namespace Highlight

/-- A character that could stand in a word, but begins neither a word nor a number. -/
def BeginsNothing (c : Char) : Prop :=
  isAlphanumeric c = true ∧ isLetter c = false ∧ isDigit c = false

/-- A text that begins with a letter or an underscore, and not with a digit. -/
def BeginsName (t : Text) : Prop :=
  ∃ d ∈ t.head?, (isLetter d = true ∨ d = '_') ∧ isDigit d = false

/-- The underscore is neither a letter nor a numeral. -/
lemma isAlphanumeric_underscore : isAlphanumeric '_' = false := by
  have letter : letterRanges.contains '_' = false :=
    Ranges.contains_of_avoids_self (by decide +kernel)
  have numeral : numeralRanges.contains '_' = false :=
    Ranges.contains_of_avoids_self (by decide +kernel)
  simp [isAlphanumeric, isLetter, letter, numeral]

/-- The underscore begins words and is not alphanumeric, so the tests for words may stand for the
classes of characters. -/
lemma beginsNothing_iff {c : Char} :
    BeginsNothing c ↔ continuesWord c = true ∧ startsWord c = false ∧ isDigit c = false := by
  by_cases line : c = '_'
  · subst line
    simp [BeginsNothing, isAlphanumeric_underscore, startsWord]
  · simp [BeginsNothing, continuesWord, startsWord, line]

/-- A dot begins something. -/
lemma BeginsNothing.ne_dot {c : Char} (nothing : BeginsNothing c) : c ≠ '.' := by
  rintro rfl
  have continues := (beginsNothing_iff.1 nothing).1
  rw [isMark_dot.continues] at continues
  cases continues

/-- A text begins with a name exactly if there is a word at its front and no digit. -/
lemma beginsName_iff {t : Text} (digit : ∀ d ∈ t.head?, isDigit d = false) :
    BeginsName t ↔ leadingWord t ≠ [] := by
  cases t with
  | nil => simp [BeginsName, leadingWord]
  | cons d t =>
    have no_digit : isDigit d = false := digit d rfl
    have word : leadingWord (d :: t) ≠ [] ↔ startsWord d = true := by simp [leadingWord]
    rw [word, startsWord_iff]
    simp [BeginsName, no_digit]

/-- A word is no stalled character. -/
lemma ne_stalled_of_isWord {kind : Kind} (word : kind.isWord = true) : kind ≠ .stalled := by
  rintro rfl
  cases word

namespace Cursor

/-! ### One step -/

/-- What is dispatched on a character leaves the place where it is. -/
def Stalls (cur : Cursor) (c : Char) : Prop :=
  ∃ s, cur.dispatch c = .ok s ∧ s.next.offset ≤ cur.offset

/-- The ways in which a step goes on at a place with the character `c` and `t` behind it. -/
inductive Takes (cur : Cursor) (c : Char) (t : Text) : Step → Prop where
  | token {kind text} :
    text ≠ [] →
    kind ≠ .stalled →
    ¬BeginsNothing c →
    ¬(c = '.' ∧ BeginsName t) →
    Takes cur c t (cur.take kind text)
  | stalled :
    BeginsNothing c →
    Takes cur c t (cur.take .stalled [c])
  | member :
    c = '.' →
    BeginsName t →
    Takes cur c t
      ⟨[cur.lexeme .punct [c], (cur.advance [c]).lexeme .ident (leadingWord t)],
        (cur.advance [c]).advance (leadingWord t)⟩

/-- A character in none of the classes takes one token, unless it is a dot before a name. -/
lemma Takes.of_isMark {cur : Cursor} {c : Char} {t : Text} {kind : Kind} {text : Text}
    (mark : IsMark c) (ne : text ≠ []) (kind_ne : kind ≠ .stalled)
    (no_member : ¬(c = '.' ∧ BeginsName t)) : Takes cur c t (cur.take kind text) := by
  refine .token ne kind_ne ?_ no_member
  intro nothing
  have continues := (beginsNothing_iff.1 nothing).1
  rw [mark.continues] at continues
  cases continues

/-- Every turn goes on in one of the ways. -/
lemma Turn.takes {cur : Cursor} {c : Char} {t : Text} {s : Step} (turn : Turn cur c s)
    (rest : cur.rest = c :: t) : Takes cur c t s := by
  -- what passes a test that the dot fails is not the dot before a member
  have no_member : ∀ {test : Char → Bool}, test '.' = false → test c = true →
      ¬(c = '.' ∧ BeginsName t) := by
    rintro test fails passes ⟨rfl, -⟩
    rw [fails] at passes
    cases passes
  cases turn with
  | whiteSpace white =>
    refine .token (by simp [leadingWhiteSpace, rest, white]) (by decide) ?_
      (no_member isMark_dot.white white)
    intro nothing
    rw [isWhiteSpace_of_continuesWord (beginsNothing_iff.1 nothing).1] at white
    cases white
  | docstring quote =>
    exact .of_isMark (isMark_of_isQuote quote) (List.cons_ne_nil _ _) (by split <;> decide)
      (no_member rfl quote)
  | string quote =>
    exact .of_isMark (isMark_of_isQuote quote) (List.cons_ne_nil _ _) (by split <;> decide)
      (no_member rfl quote)
  | number digit =>
    refine .token (by simp [leadingNumber, rest, isNumberPart, digit]) (by decide) ?_
      (no_member isMark_dot.digit digit)
    intro nothing
    rw [nothing.2.2] at digit
    cases digit
  | word starts =>
    refine .token (by simp [leadingWord, rest, starts]) ?_ ?_ (no_member isMark_dot.starts starts)
    · rw [classify_eq]
      exact ne_stalled_of_isWord (isWord_wordKind _)
    · intro nothing
      rw [(beginsNothing_iff.1 nothing).2.1] at starts
      cases starts
  | stalled white digit continues starts =>
    exact .stalled (beginsNothing_iff.2 ⟨continues, starts, digit⟩)
  | @fraction d t' dot rest' digit =>
    subst dot
    refine .of_isMark isMark_dot (List.cons_ne_nil _ _) (by decide) ?_
    rintro ⟨-, e, mem, -, no_digit⟩
    obtain rfl : t = d :: t' := (List.cons.inj (rest.symm.trans rest')).2
    cases mem
    rw [digit] at no_digit
    cases no_digit
  | @member t' dot rest' digit =>
    subst dot
    obtain rfl : t = t' := (List.cons.inj (rest.symm.trans rest')).2
    have name := beginsName_iff digit
    by_cases word : leadingWord t = []
    · -- no name behind the dot, which is all that the step takes
      rw [word]
      have no_name : ¬BeginsName t := fun begins => name.1 begins word
      have takes : Takes cur '.' t (cur.take .punct ['.']) :=
        .of_isMark isMark_dot (List.cons_ne_nil _ _) (by decide) fun both => no_name both.2
      rw [advance_append]
      exact takes
    · rw [take_lexemes _ _ word]
      exact .member rfl (name.2 word)
  | comment hash =>
    subst hash
    refine .of_isMark isMark_hash (by simp [leadingLine, rest]) (by decide) ?_
    rintro ⟨dot, -⟩
    cases dot
  | punct white quote digit continues dot =>
    refine .of_isMark ⟨white, digit, continues⟩ (List.cons_ne_nil _ _) (by decide) ?_
    rintro ⟨rfl, -⟩
    exact dot rfl

namespace Takes

variable {cur : Cursor} {c : Char} {t : Text} {s : Step}

/-- A step takes one token, or two where a name stands behind a dot. -/
lemma length_lexemes (takes : Takes cur c t s) :
    (s.lexemes.length = 1 ∨ s.lexemes.length = 2) ∧
      (s.lexemes.length = 2 ↔ c = '.' ∧ BeginsName t) := by
  cases takes with
  | token ne _ _ no_member =>
    rw [take_lexemes _ _ ne]
    simp [no_member]
  | stalled nothing =>
    rw [take_lexemes _ _ (List.cons_ne_nil _ _)]
    simp [nothing.ne_dot]
  | member dot name => simp [dot, name]

/-- A step gives a character up exactly if it begins nothing. -/
lemma stalled_iff (takes : Takes cur c t s) :
    (∃ l ∈ s.lexemes, l.kind = .stalled) ↔ BeginsNothing c := by
  cases takes with
  | token ne kind_ne some_class =>
    rw [take_lexemes _ _ ne]
    simp [lexeme, kind_ne, some_class]
  | stalled nothing =>
    rw [take_lexemes _ _ (List.cons_ne_nil _ _)]
    simp [lexeme, nothing]
  | member dot =>
    have some_class : ¬BeginsNothing c := fun nothing => nothing.ne_dot dot
    simp [lexeme, some_class]

end Takes

/-- Nothing is taken at a character exactly if it begins nothing. -/
lemma stalls_iff {cur : Cursor} {c : Char} {t : Text} (rest : cur.rest = c :: t) :
    cur.Stalls c ↔ BeginsNothing c := by
  constructor
  · rintro ⟨s, ok, le⟩
    obtain ⟨s', ok', turn | ⟨-, turn⟩⟩ := dispatch_turn rest
    · rw [ok] at ok'
      cases ok'
      exact absurd (turn.offset_lt rest) (Nat.not_lt.2 le)
    · refine (turn.takes rest).stalled_iff.1 ⟨cur.lexeme .stalled [c], ?_, rfl⟩
      rw [take_lexemes _ _ (List.cons_ne_nil _ _)]
      exact List.mem_singleton_self _
  · intro nothing
    obtain ⟨continues, starts, digit⟩ := beginsNothing_iff.1 nothing
    refine ⟨_, dispatch_of_stalled rest digit continues starts, ?_⟩
    simp [advance]

/-- The lexemes of a step are slices of the source, one behind the other and none of them empty.
They begin at byte `pos` and end where the step goes on, which is a place of the source behind it. -/
structure GoesOn (source : Text) (pos : Nat) (s : Step) : Prop where
  first : ∀ l ∈ s.lexemes.head?, l.span.start = pos
  adjacent : (s.lexemes.map (·.span)).IsChain fun a b => a.stop = b.start
  slices : ∀ l ∈ s.lexemes, l.span.start < l.span.stop ∧
    source.slice? l.span.start l.span.stop = some l.text
  last : ∀ l ∈ s.lexemes.getLast?, l.span.stop = s.next.offset
  further : pos < s.next.offset
  placed : at? source s.next.offset = some s.next

/-- A turn at a place of a source goes on in it. -/
lemma Turn.goesOn {source : Text} {cur : Cursor} {c : Char} {t : Text} {s : Step}
    (turn : Turn cur c s) (rest : cur.rest = c :: t)
    (placed : at? source cur.offset = some cur) : GoesOn source cur.offset s := by
  have leads := turn.leads rest
  refine ⟨?_, Tiling.isChain_of_leads leads, Tiling.slice?_of_leads leads placed,
    Tiling.getLast?_of_leads leads, turn.offset_lt rest, leads.placed placed⟩
  intro l mem
  generalize s.lexemes = lexemes at leads mem
  cases leads with
  | nil => cases mem
  | cons =>
    cases mem
    rfl

/-- At a boundary of a source there is a place. -/
lemma exists_at? {source : Text} {pos : Nat} (boundary : source.IsBoundary pos) :
    ∃ cur : Cursor, cur.offset = pos ∧ at? source cur.offset = some cur := by
  obtain ⟨rest, place⟩ := Option.isSome_iff_exists.1 boundary
  refine ⟨⟨pos, rest⟩, rfl, ?_⟩
  rw [at?, place, Option.map_some]

/-! ### Step after step -/

/-- The steps that lead from one place to another. -/
inductive Passes : Cursor → List Step → Cursor → Prop where
  | nil {cur} :
    Passes cur [] cur
  | cons {cur s steps last} :
    cur.step = .ok (some s) →
    Passes s.next steps last →
    Passes cur (s :: steps) last

/-- Every step passes a character at least. -/
lemma Passes.length_le {cur last : Cursor} {steps : List Step} (passes : Passes cur steps last) :
    steps.length + last.rest.length ≤ cur.rest.length := by
  induction passes with
  | nil => simp
  | cons h _ ih =>
    have lt := length_next_lt h
    rw [List.length_cons]
    omega

/-- A scan goes on behind a step with the lexemes of the step behind those found before. -/
lemma scanBehind_of_step {cur : Cursor} {s : Step} (h : cur.step = .ok (some s))
    (found : Array Lexeme) : cur.scanBehind found = s.next.scanBehind (found ++ s.lexemes) := by
  rw [scanBehind]
  split
  · next e h' => cases h.symm.trans h'
  · next h' => cases h.symm.trans h'
  · next s' h' =>
    cases h.symm.trans h'
    rfl

/-- A scan ends where there is no step. -/
lemma scanBehind_of_end {cur : Cursor} (h : cur.step = .ok none) (found : Array Lexeme) :
    cur.scanBehind found = .ok found := by
  rw [scanBehind]
  split
  · next e h' => cases h.symm.trans h'
  · rfl
  · next s' h' => cases h.symm.trans h'

/-- A scan goes on behind steps with their lexemes behind those found before. -/
lemma Passes.scanBehind_eq {cur last : Cursor} {steps : List Step} (passes : Passes cur steps last)
    (found : Array Lexeme) :
    cur.scanBehind found = last.scanBehind (found ++ steps.flatMap (·.lexemes)) := by
  induction passes generalizing found with
  | nil => simp
  | cons h _ ih =>
    rw [scanBehind_of_step h, ih, List.flatMap_cons]
    exact congrArg _ (Array.ext' (by simp))

/-- From any place steps lead to the end. -/
lemma exists_passes (cur : Cursor) : ∃ steps last, Passes cur steps last ∧ last.rest = [] := by
  obtain ⟨lexemes, runs, -⟩ := scanBehind_runs cur #[]
  induction runs with
  | done rest => exact ⟨[], _, .nil, rest⟩
  | step h _ ih =>
    obtain ⟨steps, last, passes, rest⟩ := ih
    exact ⟨_ :: steps, last, .cons h passes, rest⟩

/-- The contract of a step. At every boundary before the end of a source, whether a scan comes there
or not, a step succeeds, looks at whole characters only, and adds its lexemes behind those found
before: two where a name stands behind a dot, and one everywhere else. They fill the source from the
boundary to the next place. What is dispatched takes nothing exactly at a character that is
alphanumeric and neither a letter nor a digit, which is then given up. So a scan ends, and it makes
no more steps than there are characters. -/
theorem step_goes_on (source : Text) :
    (∀ pos, source.IsBoundary pos → pos < source.size →
      ∃ cur c t s, at? source pos = some cur ∧ cur.rest = c :: t ∧
        cur.Safe source ∧ (c = '.' → (cur.advance [c]).Safe source) ∧
        cur.step = .ok (some s) ∧
        (∀ found, cur.scanBehind found = s.next.scanBehind (found ++ s.lexemes) ∧
          ∃ more : List Lexeme, cur.scanBehind found = .ok (found ++ s.lexemes ++ more)) ∧
        (s.lexemes.length = 1 ∨ s.lexemes.length = 2) ∧
        (s.lexemes.length = 2 ↔ c = '.' ∧ BeginsName t) ∧
        GoesOn source pos s ∧
        (cur.Stalls c ↔ BeginsNothing c) ∧
        ((∃ l ∈ s.lexemes, l.kind = .stalled) ↔ BeginsNothing c)) ∧
    (∀ steps last, Passes (start source) steps last → steps.length ≤ source.length) ∧
    ∃ steps last, Passes (start source) steps last ∧ last.step = .ok none ∧
      steps.length ≤ source.length ∧ scan source = .ok ⟨source, steps.flatMap (·.lexemes)⟩ := by
  have bound : ∀ steps last, Passes (start source) steps last → steps.length ≤ source.length :=
    fun steps last passes => (Nat.le_add_right _ _).trans passes.length_le
  refine ⟨?_, bound, ?_⟩
  · intro pos boundary inside
    obtain ⟨cur, rfl, placed⟩ := exists_at? boundary
    cases rest : cur.rest with
    | nil => exact absurd (offset_eq_size placed rest) (Nat.ne_of_lt inside)
    | cons c t =>
      obtain ⟨s, ok, turn⟩ := step_turn rest
      have takes := turn.takes rest
      refine ⟨cur, c, t, s, placed, rest, safe_of_at? placed, ?_, ok, ?_,
        takes.length_lexemes.1, takes.length_lexemes.2, turn.goesOn rest placed, stalls_iff rest,
        takes.stalled_iff⟩
      · intro _
        have one : [c] <+: cur.rest := rest ▸ List.prefix_append [c] t
        exact safe_of_at? (at?_advance placed one)
      · intro found
        have onward := scanBehind_of_step ok found
        obtain ⟨more, -, ended⟩ := scanBehind_runs s.next (found ++ s.lexemes)
        exact ⟨onward, more, onward.trans ended⟩
  · obtain ⟨steps, last, passes, rest⟩ := exists_passes (start source)
    have ended := step_end rest
    refine ⟨steps, last, passes, ended, bound steps last passes, ?_⟩
    rw [scan, passes.scanBehind_eq, scanBehind_of_end ended]
    simp

/-- A fraction is given up, a dot is taken with the name behind it, and so is that name alone from
between the two, where no scan comes to. -/
theorem step_goes_on_fraction :
    Text.IsBoundary ['½', '.', 'λ'] 0 ∧ Text.IsBoundary ['½', '.', 'λ'] 2 ∧
      Text.IsBoundary ['½', '.', 'λ'] 3 ∧ 3 < Text.size ['½', '.', 'λ'] ∧
      (Cursor.mk 0 ['½', '.', 'λ']).Stalls '½' ∧
      (∃ s, (Cursor.mk 2 ['.', 'λ']).step = .ok (some s) ∧ s.lexemes.length = 2 ∧
        GoesOn ['½', '.', 'λ'] 2 s) ∧
      (∃ s, (Cursor.mk 3 ['λ']).step = .ok (some s) ∧ s.lexemes.length = 1 ∧
        GoesOn ['½', '.', 'λ'] 3 s) ∧
      ∃ steps last, Passes (start ['½', '.', 'λ']) steps last ∧ last.step = .ok none ∧
        steps.length ≤ 3 := by
  obtain ⟨contract, -, steps, last, passes, ended, le, -⟩ := step_goes_on ['½', '.', 'λ']
  have at_zero : Text.IsBoundary ['½', '.', 'λ'] 0 := by decide
  have at_two : Text.IsBoundary ['½', '.', 'λ'] 2 := by decide
  have at_three : Text.IsBoundary ['½', '.', 'λ'] 3 := by decide
  have inside : 3 < Text.size ['½', '.', 'λ'] := by decide
  refine ⟨at_zero, at_two, at_three, inside, ?_, ?_, ?_, steps, last, passes, ended, le⟩
  · obtain ⟨cur, c, t, s, place, rest, -, -, -, -, -, -, -, stalls, -⟩ :=
      contract 0 at_zero (by omega)
    cases place
    cases rest
    refine stalls.2 ⟨?_, ?_, ?_⟩
    · decide +kernel
    · decide +kernel
    · decide +kernel
  · obtain ⟨cur, c, t, s, place, rest, -, -, ok, -, -, two, goesOn, -⟩ :=
      contract 2 at_two (by omega)
    cases place
    cases rest
    refine ⟨s, ok, two.2 ⟨rfl, 'λ', rfl, .inl ?_, ?_⟩, goesOn⟩
    · decide +kernel
    · decide +kernel
  · obtain ⟨cur, c, t, s, place, rest, -, -, ok, -, one | two, no_dot, goesOn, -⟩ :=
      contract 3 at_three inside
    · cases place
      exact ⟨s, ok, one, goesOn⟩
    · cases place
      cases rest
      exact absurd (no_dot.1 two).1 (by decide)

end Cursor

end Highlight
