import Highlight.Proofs.Readings

/-!
# Forms without quotes at an offset

White space, numbers and comments are the longest front of fitting characters, `LongestRun`. A word
is a character that can begin one with the longest run behind it, or nothing, `WordFront`. Both are
said without a procedure, and `Form.readWith_takes_longest` says that at every boundary of a source
they are what is read there by offsets, up to the offset behind their bytes.
-/

namespace Highlight

/-! ### Longest runs -/

/-- The longest front of a text all of whose characters fit. -/
structure LongestRun (fits : Char → Prop) (run t : Text) : Prop where
  front : run <+: t
  all : ∀ c ∈ run, fits c
  longest : ∀ other, other <+: t → (∀ c ∈ other, fits c) → other.length ≤ run.length

/-- The characters that are taken while a test succeeds are the longest run. -/
lemma longestRun_takeWhile {p : Char → Bool} {fits : Char → Prop} (test : ∀ c, p c = true ↔ fits c)
    (t : Text) : LongestRun fits (t.takeWhile p) t := by
  refine ⟨List.takeWhile_prefix p, ?_, ?_⟩
  · intro c mem
    exact (test c).1 (List.mem_takeWhile_imp mem)
  · rintro other ⟨behind, rfl⟩ all
    have passed : ∀ c ∈ other, p c = true := fun c mem => (test c).2 (all c mem)
    rw [List.takeWhile_append_of_pos passed, List.length_append]
    exact Nat.le_add_right _ _

/-- The word at the front of a text. There is none if the first character is missing or is neither a
letter nor an underscore. -/
inductive WordFront : Text → Text → Prop where
  | missing {t} :
    (∀ c ∈ t.head?, isLetter c = false ∧ c ≠ '_') →
    WordFront [] t
  | word {c run t} :
    isLetter c = true ∨ c = '_' →
    LongestRun (fun d => isAlphanumeric d = true ∨ d = '_') run t →
    WordFront (c :: run) (c :: t)

/-- The word that is taken from a text is the one at its front. -/
lemma wordFront_leadingWord (t : Text) : WordFront (leadingWord t) t := by
  fun_cases leadingWord t with
  | case1 =>
    refine .missing ?_
    intro c mem
    cases mem
  | case2 c t starts =>
    exact .word ((startsWord_iff c).1 starts) (longestRun_takeWhile continuesWord_iff t)
  | case3 c t starts =>
    refine .missing ?_
    intro d mem
    cases mem
    rw [startsWord_iff, not_or, Bool.not_eq_true] at starts
    exact starts

/-! ### Readings -/

namespace Form

/-- At an offset a form takes a text. It is complete and ends as many bytes further on as the text
has, where the source goes on. -/
def TakesAt (find : ByteSearch) (form : Form) (source : Text) (start : Nat) (text : Text) : Prop :=
  ∃ behind, form.readWith find source start = .ok ⟨⟨text, .complete⟩, ⟨start + text.size, behind⟩⟩ ∧
    source.from? (start + text.size) = some behind

/-- A form takes one text only. -/
lemma TakesAt.eq_of_readWith {find : ByteSearch} {form : Form} {source text : Text} {start : Nat}
    {reading : Reading} (takes : form.TakesAt find source start text)
    (ok : form.readWith find source start = .ok reading) : text = reading.text := by
  obtain ⟨behind, ok', -⟩ := takes
  rw [ok'] at ok
  cases ok
  rfl

/-- What a form takes from the rest of a source, it takes at the offset where the rest begins. -/
lemma takesAt_of_take {find : ByteSearch} {form : Form} {front rest text : Text}
    (finds : FindsFirst find) (took : form.take rest = .ok (.plain text)) :
    form.TakesAt find (front ++ rest) front.size text := by
  have pre : text <+: rest := take_isPrefix took
  obtain ⟨behind, rfl⟩ := pre
  have read := (Yields.taken (Text.from?_size front (text ++ behind)) took).readWith_eq finds
  have place := Text.from?_size (front ++ text) behind
  rw [List.append_assoc, Text.size_append] at place
  refine ⟨behind, ?_, place⟩
  rw [read]
  simp [Taken.plain, Cursor.advance]

/-- A comment ends at the first newline in the bytes, or with the source. -/
lemma size_comment {front rest : Text} {found : Option Nat}
    (h : Finds (Text.bytes ['\n']) ((front ++ rest).bytes.drop front.size) found) :
    front.size + (leadingLine rest).size =
      (found.map (front.size + ·)).getD (front ++ rest).size := by
  rw [Text.drop_bytes (Text.from?_size front rest)] at h
  rw [size_leadingLine h, Text.size_append]
  cases found with
  | none => rfl
  | some n => rfl

/-- At every boundary of a source each form without quotes takes as much as there is of it: white
space the longest front of white space, a number that of digits, dots and the letters `e` and `E`, a
comment the longest front without a newline, which a search of the bytes finds as well, and a word
its first character and the longest run of letters, numerals and underscores behind it, or nothing.
All of them are complete and end behind the bytes of what they took. -/
theorem readWith_takes_longest {find : ByteSearch} (finds : FindsFirst find) {source : Text}
    {start : Nat} (boundary : source.IsBoundary start) :
    ∃ rest, source.from? start = some rest ∧
      (∃ text, Form.whiteSpace.TakesAt find source start text ∧
        LongestRun (fun c => isWhiteSpace c = true) text rest) ∧
      (∃ text, Form.number.TakesAt find source start text ∧
        LongestRun (fun c => isDigit c = true ∨ c = '.' ∨ c = 'e' ∨ c = 'E') text rest) ∧
      (∃ text, Form.comment.TakesAt find source start text ∧
        LongestRun (fun c => c ≠ '\n') text rest ∧
        ∀ found, Finds (Text.bytes ['\n']) (source.bytes.drop start) found →
          start + text.size = (found.map (start + ·)).getD source.size) ∧
      ∃ text, Form.word.TakesAt find source start text ∧ WordFront text rest := by
  obtain ⟨front, rest, rfl, rfl⟩ := Text.isBoundary_iff.1 boundary
  refine ⟨rest, Text.from?_size front rest, ?_, ?_, ?_, ?_⟩
  · exact ⟨_, takesAt_of_take finds rfl, longestRun_takeWhile (fun _ => Iff.rfl) rest⟩
  · exact ⟨_, takesAt_of_take finds rfl, longestRun_takeWhile isNumberPart_iff rest⟩
  · refine ⟨_, takesAt_of_take finds rfl, longestRun_takeWhile (fun _ => bne_iff_ne) rest, ?_⟩
    intro found finds
    exact size_comment finds
  · exact ⟨_, takesAt_of_take finds rfl, wordFront_leadingWord rest⟩

/-- Behind a letter of two bytes a word of two such characters ends before a dot, and a comment ends
before the newline behind it. -/
theorem readWith_takes_longest_wide :
    FindsFirst firstOffset? ∧ Text.IsBoundary ['λ', 'é', '²', '.', '\n'] 2 ∧
      Form.word.TakesAt firstOffset? ['λ', 'é', '²', '.', '\n'] 2 ['é', '²'] ∧
      WordFront ['é', '²'] ['é', '²', '.', '\n'] ∧
      Form.comment.TakesAt firstOffset? ['λ', 'é', '²', '.', '\n'] 2 ['é', '²', '.'] ∧
      LongestRun (fun c => c ≠ '\n') ['é', '²', '.'] ['é', '²', '.', '\n'] := by
  have finds := findsFirst_firstOffset?
  have boundary : Text.IsBoundary ['λ', 'é', '²', '.', '\n'] 2 := by decide
  have word : Form.word.readWith firstOffset? ['λ', 'é', '²', '.', '\n'] 2 =
      .ok ⟨⟨['é', '²'], .complete⟩, ⟨6, ['.', '\n']⟩⟩ := by decide +kernel
  have comment : Form.comment.readWith firstOffset? ['λ', 'é', '²', '.', '\n'] 2 =
      .ok ⟨⟨['é', '²', '.'], .complete⟩, ⟨7, ['\n']⟩⟩ := by decide +kernel
  obtain ⟨rest, place, -, -, ⟨line, takes_line, run, -⟩, text, takes, front⟩ :=
    readWith_takes_longest finds boundary
  obtain rfl := takes.eq_of_readWith word
  obtain rfl := takes_line.eq_of_readWith comment
  cases place
  exact ⟨finds, boundary, takes, front, takes_line, run⟩

end Form

end Highlight
