import Highlight.Markup.Rendering
import Highlight.Proofs.Segments
import Highlight.Proofs.Tiling

/-!
# Content of renderings

What a rendering shows, apart from its tags, is the source, behind the line numbers if there are
any, and between the fixed text of a document if it is one (`Rendering.content`). All of it is
escaped, so the source can be read back from the markup.

The tags of a rendering (`Rendering.tags`) are told from its options, the number of lines and the
kinds of the tokens alone. That markup has this content and these tags is one fact,
`Rendering.shows_render`, which goes along the way markup is written: lexemes, column of line
numbers, container, document.
-/

namespace Highlight

/-! ### Tags and content -/

/-- The tags that mark a kind. -/
def Kind.tags (k : Kind) : List String :=
  match k.cssClass? with
  | some cssClass => ["<span class='" ++ cssClass ++ "'>", "</span>"]
  | none => []

/-- The tags of the rows of line numbers. -/
def numberTags (lines : Nat) : List String := (List.replicate lines ["<div>", "</div>"]).flatten

/-- The tags of a document around those of its body. -/
def documentTags (body : List String) : List String :=
  ["<!DOCTYPE html>", "<html>", "<head>", "<meta charset=\"utf-8\">", "<title>", "</title>",
    "<style>", "</style>", "</head>", "<body>"] ++ body ++ ["</body>", "</html>"]

namespace Rendering

/-- The tags of a container around those of the code. -/
def containerTags (r : Rendering) (lines : Nat) (code : List String) : List String :=
  if r.lineNumbers then
    ["<pre class='python'>", "<table>", "<tbody style='vertical-align:top;'>", "<tr>", "<td>",
      "<div class='codeLN'>"] ++ numberTags lines ++
      ["</div>", "</td>", "<td>", "<div class='codeText'>"] ++ code ++
      ["</div>", "</td>", "</tr>", "</tbody>", "</table>", "</pre>"]
  else
    ["<pre class='python'>", "<div class='codeText'>"] ++ code ++ ["</div>", "</pre>"]

/-- The tags of a rendering of some lines with tokens of the kinds given. -/
def tags (r : Rendering) (lines : Nat) (kinds : List Kind) : List String :=
  let container := r.containerTags lines (kinds.flatMap Kind.tags)
  if r.standalone then documentTags container else container

/-- The text of a container. -/
def containerContent (r : Rendering) (source : Text) : Text :=
  if r.lineNumbers then (List.range' 1 (lineCount source)).flatMap Text.decimal ++ source
  else source

/-- The text of a rendering. In a document the title and the style sheet stand before that of the
container; the rest of its text is the ends of lines. -/
def content (r : Rendering) (source : Text) : Text :=
  if r.standalone then
    List.replicate 4 '\n' ++ (r.title.getD "Python source").toList ++ List.replicate 2 '\n' ++
      styleSheet.toList ++ List.replicate 3 '\n' ++ r.containerContent source ++
      List.replicate 3 '\n'
  else r.containerContent source

end Rendering

/-! ### Text without reserved characters -/

/-- Texts are escaped one by one. -/
lemma escaped_flatMap {α : Type} (f : α → Text) (l : List α) :
    escaped (l.flatMap f) = l.flatMap fun a => escaped (f a) := by
  induction l with
  | nil => rfl
  | cons a l ih => rw [List.flatMap_cons, List.flatMap_cons, escaped_append, ih]

/-- Newlines stand for themselves. -/
lemma escaped_newlines (n : Nat) : escaped (List.replicate n '\n') = List.replicate n '\n' := by
  refine escaped_of_free fun c mem => ?_
  rw [List.eq_of_mem_replicate mem]
  decide

/-- A numeral consists of digits. -/
lemma isDigit_of_mem_decimal {n : Nat} {c : Char} (mem : c ∈ Text.decimal n) : c.isDigit = true :=
  Nat.isDigit_of_mem_toDigits (by decide) (by decide) mem

/-- A numeral stands for itself. -/
lemma escaped_decimal (n : Nat) : escaped (Text.decimal n) = Text.decimal n := by
  refine escaped_of_free fun c mem reserved => ?_
  have not_digit : ∀ c ∈ reservedChars, c.isDigit = false :=
    forall_mem_reservedChars.2 ⟨rfl, rfl, rfl, rfl⟩
  have digit := isDigit_of_mem_decimal mem
  rw [not_digit c reserved] at digit
  cases digit

/-- Whether a text has no reserved characters. -/
def isFree (t : Text) : Bool := t.all fun c => !reservedChars.contains c

/-- Texts without reserved characters, one behind the other. -/
lemma isFree_append {s t : String} (hs : isFree s.toList = true) (ht : isFree t.toList = true) :
    isFree (s ++ t).toList = true := by
  rw [isFree, String.toList_append, List.all_append]
  exact Bool.and_eq_true_iff.2 ⟨hs, ht⟩

/-- A literal is tested as the list of its characters. -/
lemma isFree_ofList {s : String} {l : Text} (e : s = String.ofList l) (h : isFree l = true) :
    isFree s.toList = true := by
  rw [e, String.toList_ofList]
  exact h

/-- The style sheet holds no reserved character. -/
lemma isFree_styleSheet : isFree styleSheet.toList = true := by
  unfold styleSheet
  iterate 14 refine isFree_append ?_ (isFree_ofList rfl (by decide +kernel))
  exact isFree_ofList rfl (by decide +kernel)

/-- The style sheet stands for itself. -/
lemma escaped_styleSheet : escaped styleSheet.toList = styleSheet.toList := by
  refine escaped_of_free fun c mem => ?_
  have free := List.all_eq_true.1 isFree_styleSheet c mem
  simpa using free

/-! ### What markup shows -/

/-- The names of classes are made of letters and blanks. -/
lemma not_mem_cssClass {k : Kind} {cssClass : String} (h : k.cssClass? = some cssClass) {c : Char}
    (other : (c.isAlpha || c == ' ') = false) : c ∉ cssClass.toList := by
  have letters : (cssClass.toList.all fun c => c.isAlpha || c == ' ') = true := by
    cases k with
    | whitespace => cases h
    | punct => cases h
    | _ =>
      cases h
      decide
  intro mem
  have letter := List.all_eq_true.1 letters c mem
  rw [other] at letter
  cases letter

/-- The opening of a span is one tag. -/
lemma shows_span {cssClass : String} (gt : '>' ∉ cssClass.toList) :
    Shows ("<span class='" ++ cssClass ++ "'>").toList ["<span class='" ++ cssClass ++ "'>"] [] := by
  have e : ("<span class='" ++ cssClass ++ "'>").toList =
      '<' :: (("span class='".toList ++ cssClass.toList ++ ['\'']) ++ ['>']) := by
    rw [String.toList_append, String.toList_append, List.append_assoc _ ['\''], List.append_assoc]
    rfl
  refine Shows.tag e ?_
  rw [List.mem_append, List.mem_append]
  rintro ((mem | mem) | mem)
  · exact absurd mem (by decide)
  · exact gt mem
  · exact absurd mem (by decide)

/-- A lexeme shows its text, marked by its kind. -/
lemma shows_fragments (l : Lexeme) :
    Shows l.fragments.flatten l.kind.tags (escaped l.text) := by
  unfold Lexeme.fragments Kind.tags
  cases h : l.kind.cssClass? with
  | none =>
    rw [textFragments, List.flatten_singleton]
    exact Shows.of_escaped l.text
  | some cssClass =>
    have closing : Shows "</span>".toList ["</span>"] [] := ⟨fun _ => rfl, fun _ => rfl⟩
    have marked := (shows_span (not_mem_cssClass h rfl)).between (.of_escaped l.text) closing
    rw [String.toList_append, String.toList_append] at marked
    simpa [spanFragments] using marked

namespace Sheet

/-- Pieces are written one behind the other. -/
lemma html_putAll (sheet : Sheet) (fragments : List Text) :
    (sheet.putAll fragments).html = sheet.html ++ fragments.flatten := by
  induction fragments generalizing sheet with
  | nil => exact (List.append_nil _).symm
  | cons fragment fragments ih =>
    calc ((sheet.put fragment).putAll fragments).html
      _ = sheet.html ++ fragment ++ fragments.flatten := ih _
      _ = sheet.html ++ (fragment :: fragments).flatten := by
        rw [List.flatten_cons, List.append_assoc]

/-- A scan is written as its markup. -/
lemma html_putScan (sheet : Sheet) (s : Scan) : (sheet.putScan s).html = sheet.html ++ s.markup :=
  sheet.html_putAll s.fragments

end Sheet

/-- Markup is written lexeme by lexeme. -/
lemma Scan.markup_eq_flatMap (s : Scan) :
    s.markup = s.lexemes.flatMap fun l => l.fragments.flatten := by
  rw [markup, fragments, ← List.flatMap_id, List.flatMap_assoc]
  simp only [List.flatMap_id]

/-- A scan shows the texts of its lexemes, each marked by its kind. -/
lemma shows_markup (s : Scan) :
    Shows s.markup (s.tokens.flatMap (·.kind.tags)) (escaped (s.lexemes.flatMap (·.text))) := by
  rw [s.markup_eq_flatMap, escaped_flatMap, Scan.tokens, List.flatMap_map]
  exact Shows.flatMap shows_fragments s.lexemes

/-- A row shows its number. -/
lemma shows_numberRow (n : Nat) : Shows (numberRow n) ["<div>", "</div>"] (Text.decimal n) := by
  have opening : Shows "<div>".toList ["<div>"] [] := ⟨fun _ => rfl, fun _ => rfl⟩
  have closing : Shows "</div>".toList ["</div>"] [] := ⟨fun _ => rfl, fun _ => rfl⟩
  have number := Shows.of_escaped (Text.decimal n)
  rw [escaped_decimal] at number
  exact opening.between number closing

/-- The column shows the numbers, one after the other. -/
lemma shows_numberColumn (count : Nat) :
    Shows (numberColumn count) (numberTags count)
      ((List.range' 1 count).flatMap Text.decimal) := by
  have rows : numberTags count = (List.range' 1 count).flatMap fun _ => ["<div>", "</div>"] := by
    rw [numberTags, List.flatMap_def, List.map_const', List.length_range']
  rw [rows]
  exact Shows.flatMap shows_numberRow (List.range' 1 count)

/-- A document shows its title and style sheet, and then its body. -/
lemma shows_document (title : Option String) {body : Text} {tags : List String} {text : Text}
    (h : Shows body tags text) :
    Shows (document title body) (documentTags tags)
      (List.replicate 4 '\n' ++ escaped (title.getD defaultTitle).toList ++ List.replicate 2 '\n' ++
        styleSheet.toList ++ List.replicate 3 '\n' ++ text ++ List.replicate 3 '\n') := by
  have head : Shows documentHead.toList
      ["<!DOCTYPE html>", "<html>", "<head>", "<meta charset=\"utf-8\">", "<title>"]
      (List.replicate 4 '\n') := .ofList rfl ⟨fun _ => rfl, fun _ => rfl⟩
  have style : Shows "</title>\n<style>\n".toList ["</title>", "<style>"]
      (List.replicate 2 '\n') := .ofList rfl ⟨fun _ => rfl, fun _ => rfl⟩
  have opening : Shows "</style>\n</head>\n<body>\n".toList ["</style>", "</head>", "<body>"]
      (List.replicate 3 '\n') := .ofList rfl ⟨fun _ => rfl, fun _ => rfl⟩
  have closing : Shows "\n</body>\n</html>\n".toList ["</body>", "</html>"]
      (List.replicate 3 '\n') := .ofList rfl ⟨fun _ => rfl, fun _ => rfl⟩
  have sheet := Shows.of_escaped styleSheet.toList
  rw [escaped_styleSheet] at sheet
  have page := (((((head.append (.of_escaped (title.getD defaultTitle).toList)).append style).append
    sheet).append opening).append h).append closing
  exact page

namespace Rendering

/-- A container is what is written on its sheet. -/
lemma contain_eq (r : Rendering) (s : Scan) :
    r.contain s =
      if r.lineNumbers then
        "<pre class='python'><table><tbody style='vertical-align:top;'><tr><td>".toList ++
          "<div class='codeLN'>".toList ++ numberColumn (lineCount s.source) ++
          "</div></td><td><div class='codeText'>".toList ++ s.markup ++
          "</div></td></tr></tbody></table></pre>".toList
      else
        "<pre class='python'><div class='codeText'>".toList ++ s.markup ++
          "</div></pre>".toList := by
  simp only [contain, Sheet.put, Sheet.html_putScan, List.nil_append]

/-- A container shows the line numbers, if there are any, and the source. -/
lemma shows_contain (r : Rendering) {s : Scan} (whole : s.lexemes.flatMap (·.text) = s.source) :
    Shows (r.contain s) (r.containerTags (lineCount s.source) (s.tokens.flatMap (·.kind.tags)))
      (escaped (r.containerContent s.source)) := by
  have code := shows_markup s
  rw [whole] at code
  rw [contain_eq]
  unfold containerTags containerContent
  cases r.lineNumbers with
  | true =>
    have column := shows_numberColumn (lineCount s.source)
    have table : Shows
        "<pre class='python'><table><tbody style='vertical-align:top;'><tr><td>".toList
        ["<pre class='python'>", "<table>", "<tbody style='vertical-align:top;'>", "<tr>", "<td>"]
        [] := .ofList rfl ⟨fun _ => rfl, fun _ => rfl⟩
    have first : Shows "<div class='codeLN'>".toList ["<div class='codeLN'>"] [] :=
      .ofList rfl ⟨fun _ => rfl, fun _ => rfl⟩
    have second : Shows "</div></td><td><div class='codeText'>".toList
        ["</div>", "</td>", "<td>", "<div class='codeText'>"] [] :=
      .ofList rfl ⟨fun _ => rfl, fun _ => rfl⟩
    have closing : Shows "</div></td></tr></tbody></table></pre>".toList
        ["</div>", "</td>", "</tr>", "</tbody>", "</table>", "</pre>"] [] :=
      .ofList rfl ⟨fun _ => rfl, fun _ => rfl⟩
    have numbered := (((table.append first).between column second).append code).append closing
    have numbers : escaped ((List.range' 1 (lineCount s.source)).flatMap Text.decimal) =
        (List.range' 1 (lineCount s.source)).flatMap Text.decimal := by
      rw [escaped_flatMap]
      simp only [escaped_decimal]
    rw [if_pos rfl, if_pos rfl, if_pos rfl, escaped_append, numbers]
    simpa using numbered
  | false =>
    have opening : Shows "<pre class='python'><div class='codeText'>".toList
        ["<pre class='python'>", "<div class='codeText'>"] [] :=
      .ofList rfl ⟨fun _ => rfl, fun _ => rfl⟩
    have closing : Shows "</div></pre>".toList ["</div>", "</pre>"] [] :=
      .ofList rfl ⟨fun _ => rfl, fun _ => rfl⟩
    exact opening.between code closing

/-- A rendering of a scan that covers its source has the tags and the content told. -/
lemma shows_render (r : Rendering) {s : Scan} (whole : s.lexemes.flatMap (·.text) = s.source) :
    Shows (r.render s) (r.tags (lineCount s.source) (s.tokens.map (·.kind)))
      (escaped (r.content s.source)) := by
  have container := shows_contain r whole
  unfold render tags content
  rw [List.flatMap_map]
  cases r.standalone with
  | true =>
    have page := shows_document r.title container
    rw [if_pos rfl, if_pos rfl, if_pos rfl]
    simp only [escaped_append, escaped_newlines, escaped_styleSheet]
    exact page
  | false => exact container

/-- Every source is rendered, with the tags and the content told. -/
lemma exists_shows_toHtml (r : Rendering) (source : Text) :
    ∃ s html, scan source = .ok s ∧ r.toHtml source = .ok html ∧
      Shows html (r.tags (lineCount source) (s.tokens.map (·.kind))) (escaped (r.content source)) := by
  obtain ⟨lexemes, runs, ok⟩ := Cursor.scan_runs source
  refine ⟨⟨source, lexemes⟩, r.render ⟨source, lexemes⟩, ok, ?_, ?_⟩
  · rw [toHtml, ok]
  · exact shows_render r runs.flatMap_text

/-! ### Reading a source back -/

/-- Line numbers add no newline. -/
lemma count_newline_containerContent (r : Rendering) (source : Text) :
    (r.containerContent source).count '\n' = source.count '\n' := by
  unfold containerContent
  cases r.lineNumbers with
  | true =>
    have none : ((List.range' 1 (lineCount source)).flatMap Text.decimal).count '\n' = 0 := by
      refine List.count_eq_zero.2 fun mem => ?_
      obtain ⟨n, -, mem⟩ := List.mem_flatMap.1 mem
      exact absurd (isDigit_of_mem_decimal mem) (by decide)
    rw [if_pos rfl, List.count_append, none, Nat.zero_add]
  | false => rfl

/-- Line numbers hold no newline, so the newlines of a container tell how many numbers there are. -/
lemma containerContent_injective (r : Rendering) : Function.Injective r.containerContent := by
  intro source other h
  have lines : lineCount source = lineCount other := by
    rw [lineCount, lineCount, ← count_newline_containerContent r source, h,
      count_newline_containerContent]
  unfold containerContent at h
  rw [lines] at h
  cases numbered : r.lineNumbers with
  | true =>
    rw [numbered, if_pos rfl, if_pos rfl] at h
    exact List.append_cancel_left h
  | false =>
    rw [numbered] at h
    exact h

/-- A source is told by the text of its rendering. -/
lemma content_injective (r : Rendering) : Function.Injective r.content := by
  intro source other h
  apply containerContent_injective r
  unfold content at h
  cases alone : r.standalone with
  | true =>
    -- what stands around the container is the same for all sources
    rw [alone, if_pos rfl, if_pos rfl] at h
    exact List.append_cancel_left (List.append_cancel_right h)
  | false =>
    rw [alone] at h
    exact h

/-- Every source is rendered, and what is left of the markup without its tags and entities is the
content of the rendering: the source, behind the line numbers if they are asked for, and in a
document behind its title and style sheet. So no two sources have one rendering. -/
theorem unescape_textOf_toHtml (r : Rendering) (source : Text) :
    ∃ html, r.toHtml source = .ok html ∧ unescape (textOf html) = r.content source ∧
      ∀ other, r.toHtml other = .ok html → other = source := by
  obtain ⟨s, html, -, ok, shows⟩ := exists_shows_toHtml r source
  have content : unescape (textOf html) = r.content source := by
    rw [shows.textOf_eq, unescape_escaped]
  refine ⟨html, ok, content, ?_⟩
  intro other ok'
  obtain ⟨s', html', -, ok'', shows'⟩ := exists_shows_toHtml r other
  obtain rfl : html' = html := Except.ok.inj (ok''.symm.trans ok')
  apply content_injective r
  rw [← content, shows'.textOf_eq, unescape_escaped]

end Rendering

end Highlight
