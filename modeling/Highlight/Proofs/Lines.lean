import Highlight.Proofs.Content
import Mathlib.Data.List.Count

/-!
# Lines of renderings

A column of line numbers is counted from the newlines of the source and stands beside lines of
markup. The two go together because markup breaks its lines where the source does: a newline is
written as it is, and no tag and no entity holds one.

`Linewise f t t'` says that `f` makes the lines of `t'` of those of `t`, whatever lines follow. Like
`Shows` it goes along the way markup is written. Line by line, a source is read back from its markup
(`Scan.map_unescape_lines`), so that both have as many lines as there are numbers
(`Rendering.toHtml_numbers_lines`).
-/

namespace Highlight

/-- Writes a text in front of some lines. Each newline in it begins a line. -/
def ontoLines (t : Text) (lines : List Text) : List Text :=
  t.foldr (fun c lines => if c = '\n' then [] :: lines else lines.modifyHead (c :: ·)) lines

/-- A text is written in front of lines part by part. -/
lemma ontoLines_append (s t : Text) (lines : List Text) :
    ontoLines (s ++ t) lines = ontoLines s (ontoLines t lines) := List.foldr_append

/-- A character goes to the first line, or begins one. -/
lemma ontoLines_cons (c : Char) (t : Text) (lines : List Text) :
    ontoLines (c :: t) lines =
      if c = '\n' then [] :: ontoLines t lines else (ontoLines t lines).modifyHead (c :: ·) := rfl

/-- A text without newlines goes to the first line. -/
lemma ontoLines_of_not_mem {t : Text} (free : '\n' ∉ t) (lines : List Text) :
    ontoLines t lines = lines.modifyHead (t ++ ·) := by
  induction t with
  | nil => exact (congrFun List.modifyHead_id lines).symm
  | cons c t ih =>
    rw [List.mem_cons, not_or] at free
    rw [ontoLines_cons, if_neg (Ne.symm free.1), ih free.2, List.modifyHead_modifyHead]
    rfl

/-- The lines of a text are written in front of an empty one. -/
lemma splitOn_eq_ontoLines (t : Text) : t.splitOn '\n' = ontoLines t [[]] := by
  induction t with
  | nil => exact List.splitOn_nil '\n'
  | cons c t ih =>
    rw [List.splitOn_cons_eq_if_modifyHead, ih, ontoLines_cons]
    simp only [beq_iff_eq]

/-- Each newline makes a line more. -/
lemma length_ontoLines (t : Text) (lines : List Text) :
    (ontoLines t lines).length = t.count '\n' + lines.length := by
  induction t with
  | nil => exact (Nat.zero_add _).symm
  | cons c t ih =>
    rw [ontoLines_cons, List.count_cons]
    split
    · next newline =>
      rw [List.length_cons, ih, newline, beq_self_eq_true, if_pos rfl]
      omega
    · next other =>
      rw [List.length_modifyHead, ih, beq_false_of_ne other]
      rfl

/-- All offsets at which `a` stands in a list, in order. -/
structure FindsAll {α : Type} (a : α) (l : List α) (offsets : List Nat) : Prop where
  sorted : offsets.Pairwise (· < ·)
  mem_iff : ∀ i, i ∈ offsets ↔ l[i]? = some a

/-- Whatever search finds all offsets finds as many as there are. -/
lemma FindsAll.length_eq {α : Type} [BEq α] [LawfulBEq α] {a : α} {l : List α} {offsets : List Nat}
    (finds : FindsAll a l offsets) : offsets.length = l.count a := by
  have listed : offsets.Perm (l.findIdxs (· == a)) := by
    refine (List.perm_ext_iff_of_nodup ?_ List.nodup_findIdxs).2 fun i => ?_
    · exact finds.sorted.imp Nat.ne_of_lt
    · rw [finds.mem_iff, List.mem_findIdxs_iff_exists_getElem_pos, List.getElem?_eq_some_iff]
      simp only [beq_iff_eq]
  rw [listed.length_eq, List.length_findIdxs]
  rfl

/-- There is one line more than there are newlines. -/
lemma length_splitOn_newline (t : Text) : (t.splitOn '\n').length = lineCount t := by
  rw [splitOn_eq_ontoLines, length_ontoLines]
  rfl

/-! ### Line by line -/

/-- What `f` makes of the lines of `t` are the lines of `t'`, whatever lines follow. -/
def Linewise (f : Text → Text) (t t' : Text) : Prop :=
  ∀ lines, (ontoLines t lines).map f = ontoLines t' (lines.map f)

namespace Linewise

variable {f : Text → Text} {s s' t t' : Text}

/-- Pieces are made one behind the other. -/
lemma append (hs : Linewise f s s') (ht : Linewise f t t') : Linewise f (s ++ t) (s' ++ t') := by
  intro lines
  rw [ontoLines_append, ontoLines_append, hs, ht]

/-- Pieces for the members of a list. -/
lemma flatMap {α : Type} {g g' : α → Text} (h : ∀ a, Linewise f (g a) (g' a)) (l : List α) :
    Linewise f (l.flatMap g) (l.flatMap g') := by
  induction l with
  | nil =>
    intro lines
    rfl
  | cons a l ih =>
    rw [List.flatMap_cons, List.flatMap_cons]
    exact (h a).append ih

/-- A piece without newlines belongs to one line. -/
lemma of_not_mem (h : ∀ rest, f (t ++ rest) = t' ++ f rest) (free : '\n' ∉ t)
    (free' : '\n' ∉ t') : Linewise f t t' := by
  intro lines
  rw [ontoLines_of_not_mem free, ontoLines_of_not_mem free']
  cases lines with
  | nil => rfl
  | cons line lines => exact congrArg (· :: lines.map f) (h line)

/-- A newline is kept. -/
lemma newline (nil : f [] = []) : Linewise f ['\n'] ['\n'] := by
  intro lines
  show f [] :: lines.map f = [] :: lines.map f
  rw [nil]

/-- The lines of one text are made of those of the other. -/
lemma map_splitOn (h : Linewise f t t') (nil : f [] = []) :
    (t.splitOn '\n').map f = t'.splitOn '\n' := by
  rw [splitOn_eq_ontoLines, splitOn_eq_ontoLines, h, List.map_singleton, nil]

end Linewise

/-! ### Lines of markup -/

/-- No entity holds a newline. -/
lemma newline_not_mem_entity {c : Char} (h : c ≠ '\n') : '\n' ∉ entity c := by
  by_cases reserved : c ∈ reservedChars
  · have all : ∀ c ∈ reservedChars, ((entity c).all (· != '\n')) = true :=
      forall_mem_reservedChars.2 ⟨rfl, rfl, rfl, rfl⟩
    intro mem
    have ne := List.all_eq_true.1 (all c reserved) '\n' mem
    exact absurd ne (by decide)
  · rw [entity_of_not_mem reserved, List.mem_singleton]
    exact h.symm

/-- Characters that `f` writes as their entities and newlines that it keeps: so it does on each
line. -/
lemma linewise_escaped {f : Text → Text} {g : Char → Text} (nil : f [] = [])
    (newline : g '\n' = ['\n']) (free : ∀ c, c ≠ '\n' → '\n' ∉ g c)
    (h : ∀ c rest, f (g c ++ rest) = entity c ++ f rest) (t : Text) :
    Linewise f (t.flatMap g) (escaped t) := by
  rw [escaped_eq]
  apply Linewise.flatMap
  intro c
  by_cases here : c = '\n'
  · subst here
    rw [newline]
    exact .newline nil
  · exact .of_not_mem (h c) (free c here) (newline_not_mem_entity here)

/-- The lines of a text are escaped one by one. -/
lemma linewise_escaped_self (t : Text) : Linewise escaped t (escaped t) := by
  have lines := linewise_escaped (f := escaped) (g := fun c => [c]) rfl rfl
    (fun c ne => by simpa using ne.symm)
    escaped_cons t
  rwa [List.flatMap_singleton'] at lines

/-- Each line of an escaped text shows itself. -/
lemma linewise_textOf_escaped (t : Text) : Linewise textOf (escaped t) (escaped t) := by
  have lines := linewise_escaped (f := textOf) (g := entity) rfl rfl
    (fun c ne => newline_not_mem_entity ne)
    (fun c rest => by
      have shows := (Shows.of_escaped [c]).textOf_append rest
      rwa [escaped_eq, List.flatMap_singleton] at shows) t
  rwa [← escaped_eq] at lines

/-- The markup of a lexeme shows the lines of its text: a tag is not broken. -/
lemma linewise_fragments (l : Lexeme) :
    Linewise textOf l.fragments.flatten (escaped l.text) := by
  unfold Lexeme.fragments
  cases h : l.kind.cssClass? with
  | none =>
    rw [textFragments, List.flatten_singleton]
    exact linewise_textOf_escaped l.text
  | some cssClass =>
    have opening : Linewise textOf ("<span class='" ++ cssClass ++ "'>").toList [] := by
      apply Linewise.of_not_mem (shows_span (not_mem_cssClass h rfl)).textOf_append
      · rw [String.toList_append, String.toList_append]
        simp [not_mem_cssClass h]
      · exact List.not_mem_nil
    have closing : Linewise textOf "</span>".toList [] := by
      have hidden : ∀ rest, textOf ("</span>".toList ++ rest) = textOf rest := fun _ => rfl
      apply Linewise.of_not_mem hidden
      · decide
      · exact List.not_mem_nil
    have marked := (opening.append (linewise_textOf_escaped l.text)).append closing
    rw [String.toList_append, String.toList_append] at marked
    simpa [spanFragments] using marked

namespace Scan

/-- Markup shows the lines of the texts of its lexemes. -/
lemma linewise_markup (s : Scan) :
    Linewise textOf s.markup (escaped (s.lexemes.flatMap (·.text))) := by
  rw [s.markup_eq_flatMap, escaped_flatMap]
  exact Linewise.flatMap linewise_fragments s.lexemes

/-- Line by line, the source is read back from its markup. -/
lemma map_unescape_lines {s : Scan} (whole : s.lexemes.flatMap (·.text) = s.source) :
    (s.markup.splitOn '\n').map (fun line => unescape (textOf line)) = s.source.splitOn '\n' := by
  have shown := s.linewise_markup.map_splitOn rfl
  rw [whole, ← (linewise_escaped_self s.source).map_splitOn rfl] at shown
  calc (s.markup.splitOn '\n').map (fun line => unescape (textOf line))
    _ = ((s.markup.splitOn '\n').map textOf).map unescape := by
      rw [List.map_map]
      rfl
    _ = ((s.source.splitOn '\n').map escaped).map unescape := by rw [shown]
    _ = s.source.splitOn '\n' := by
      rw [List.map_map]
      exact List.map_id'' unescape_escaped _

/-- Markup has as many lines as the source. -/
lemma lineCount_markup {s : Scan} (whole : s.lexemes.flatMap (·.text) = s.source) :
    lineCount s.markup = lineCount s.source := by
  have lines := congrArg List.length (map_unescape_lines whole)
  rwa [List.length_map, length_splitOn_newline, length_splitOn_newline] at lines

end Scan

/-! ### Numbers of lines -/

/-- A row holds the numeral of its line. -/
lemma numberRow_eq (n : Nat) : numberRow n = ("<div>" ++ toString n ++ "</div>").toList := by
  have numeral : (toString n).toList = Text.decimal n := String.toList_ofList
  rw [String.toList_append, String.toList_append, numeral]
  rfl

namespace Rendering

/-- Every source is rendered, and the rendering with line numbers holds the same code as the one
without. The column beside it has a row for each line, with the numbers from 1 on in order. There
is one line more than there are newlines in the source, found as characters or as bytes, or by any
search that finds all of them, and so it is of the code: each of its lines shows the line of the
source with that number. -/
theorem toHtml_numbers_lines (title title' : Option String) (source : Text) :
    ∃ (code : Text) (rows : List Text),
      toHtml { lineNumbers := true, standalone := false, title := title } source = .ok
        ("<pre class='python'><table><tbody style='vertical-align:top;'><tr><td>".toList ++
          "<div class='codeLN'>".toList ++ rows.flatten ++
          "</div></td><td><div class='codeText'>".toList ++ code ++
          "</div></td></tr></tbody></table></pre>".toList) ∧
      toHtml { lineNumbers := false, standalone := false, title := title' } source = .ok
        ("<pre class='python'><div class='codeText'>".toList ++ code ++ "</div></pre>".toList) ∧
      rows = (List.range' 1 rows.length).map (fun n => ("<div>" ++ toString n ++ "</div>").toList) ∧
      rows.length = 1 + source.count '\n' ∧
      rows.length = 1 + source.bytes.count 0x0A ∧
      (∀ offsets, FindsAll 0x0A source.bytes offsets → rows.length = 1 + offsets.length) ∧
      rows.length = 1 + code.count '\n' ∧
      (code.splitOn '\n').map (fun line => unescape (textOf line)) = source.splitOn '\n' := by
  obtain ⟨lexemes, runs, ok⟩ := Cursor.scan_runs source
  have whole : (Scan.mk source lexemes).lexemes.flatMap (·.text) = source := runs.flatMap_text
  have length : ((List.range' 1 (lineCount source)).map numberRow).length = lineCount source := by
    rw [List.length_map, List.length_range']
  have bytes : source.bytes.count 0x0A = source.count '\n' :=
    Text.count_bytes (a := '\n') (by decide) source
  refine ⟨Scan.markup ⟨source, lexemes⟩, (List.range' 1 (lineCount source)).map numberRow,
    ?_, ?_, ?_, ?_, ?_, ?_, ?_, ?_⟩
  · rw [toHtml, ok, ← List.flatMap_def]
    dsimp only
    rw [render, if_neg Bool.false_ne_true, contain_eq, if_pos rfl, numberColumn]
  · rw [toHtml, ok]
    dsimp only
    rw [render, if_neg Bool.false_ne_true, contain_eq, if_neg Bool.false_ne_true]
  · rw [length]
    exact List.map_congr_left fun n _ => numberRow_eq n
  · rw [length, lineCount, Nat.add_comm]
  · rw [length, lineCount, bytes, Nat.add_comm]
  · intro offsets finds
    rw [length, lineCount, finds.length_eq, bytes, Nat.add_comm]
  · rw [length, ← Scan.lineCount_markup whole, lineCount, Nat.add_comm]
  · exact Scan.map_unescape_lines whole

end Rendering

end Highlight
