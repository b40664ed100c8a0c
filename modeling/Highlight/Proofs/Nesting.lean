import Highlight.Proofs.Content

/-!
# Nesting of the tags of renderings

The tags of a rendering are those of its container, of the line numbers and of the marked tokens:
nothing in a source or in a title adds a tag to them, and they are told without it
(`Rendering.tags`). They are properly nested, and no span lies in another (`Nested`).
-/

namespace Highlight

/-- Whether a text can be the name of an element. -/
def isElementName (name : String) : Bool := !name.toList.isEmpty && name.toList.all Char.isAlpha

/-- The tags that open an element of some name, with or without attributes. -/
inductive Opens : String → String → Prop where
  | bare {name} :
    isElementName name = true →
    Opens name ("<" ++ name ++ ">")
  | attributes {name} attributes :
    isElementName name = true →
    Opens name ("<" ++ name ++ " " ++ attributes ++ ">")

/-- The tags that stand alone and are not closed. -/
def loneTags : List String := ["<!DOCTYPE html>", "<meta charset=\"utf-8\">"]

/-- Properly nested tags: every element is closed, and what is opened in it is closed in it. The
index says whether they lie in a span, in which there is no other. -/
inductive Nested : Bool → List String → Prop where
  | nil {inSpan} :
    Nested inSpan []
  | lone {inSpan tag tags} :
    tag ∈ loneTags →
    Nested inSpan tags →
    Nested inSpan (tag :: tags)
  | element {inSpan name opening inner tags} :
    Opens name opening →
    name ≠ "span" →
    Nested inSpan inner →
    Nested inSpan tags →
    Nested inSpan (opening :: (inner ++ ("</" ++ name ++ ">") :: tags))
  | span {opening inner tags} :
    Opens "span" opening →
    Nested true inner →
    Nested false tags →
    Nested false (opening :: (inner ++ "</span>" :: tags))

/-- Nested tags, one behind the other. -/
lemma Nested.append {inSpan : Bool} {tags tags' : List String} (h : Nested inSpan tags)
    (h' : Nested inSpan tags') : Nested inSpan (tags ++ tags') := by
  induction h with
  | nil => exact h'
  | lone mem _ ih => exact .lone mem (ih h')
  | element opens ne inner _ _ ih =>
    rw [List.cons_append, List.append_assoc]
    exact .element opens ne inner (ih h')
  | span opens inner _ _ ih =>
    rw [List.cons_append, List.append_assoc]
    exact .span opens inner (ih h')

/-- An element that is closed at the end of the tags. -/
lemma Nested.wrap {inSpan : Bool} {opening name : String} {inner : List String}
    (opens : Opens name opening) (ne : name ≠ "span") (h : Nested inSpan inner) :
    Nested inSpan (opening :: (inner ++ ["</" ++ name ++ ">"])) :=
  .element opens ne h .nil

/-- A span is opened with its class. -/
lemma opens_span (cssClass : String) : Opens "span" ("<span class='" ++ cssClass ++ "'>") := by
  have e : "<span class='" ++ cssClass ++ "'>" =
      "<" ++ "span" ++ " " ++ ("class='" ++ cssClass ++ "'") ++ ">" := by
    have front : "<span class='" = "<" ++ "span" ++ " " ++ "class='" := rfl
    have back : "'>" = "'" ++ ">" := rfl
    rw [front, back]
    simp only [String.append_assoc]
  rw [e]
  exact .attributes _ rfl

/-- The tags of some tokens are nested. -/
lemma nested_kinds (kinds : List Kind) : Nested false (kinds.flatMap Kind.tags) := by
  induction kinds with
  | nil => exact .nil
  | cons k kinds ih =>
    rw [List.flatMap_cons, Kind.tags]
    cases k.cssClass? with
    | none => exact ih
    | some cssClass => exact .span (opens_span cssClass) .nil ih

/-- The tags of the line numbers are nested. -/
lemma nested_numberTags (lines : Nat) : Nested false (numberTags lines) := by
  induction lines with
  | zero => exact .nil
  | succ lines ih =>
    have row : Opens "div" "<div>" := .bare rfl
    exact .element row (by decide) .nil ih

/-- The tags of a container are nested around those of the code. -/
lemma nested_containerTags (r : Rendering) (lines : Nat) {code : List String}
    (h : Nested false code) : Nested false (r.containerTags lines code) := by
  have pre : Opens "pre" "<pre class='python'>" := .attributes "class='python'" rfl
  have text : Opens "div" "<div class='codeText'>" := .attributes "class='codeText'" rfl
  unfold Rendering.containerTags
  cases r.lineNumbers with
  | true =>
    have table : Opens "table" "<table>" := .bare rfl
    have body : Opens "tbody" "<tbody style='vertical-align:top;'>" :=
      .attributes "style='vertical-align:top;'" rfl
    have row : Opens "tr" "<tr>" := .bare rfl
    have cell : Opens "td" "<td>" := .bare rfl
    have numbers : Opens "div" "<div class='codeLN'>" := .attributes "class='codeLN'" rfl
    have first := ((nested_numberTags lines).wrap numbers (by decide)).wrap cell (by decide)
    have second := (h.wrap text (by decide)).wrap cell (by decide)
    have whole := ((((first.append second).wrap row (by decide)).wrap body (by decide)).wrap table
      (by decide)).wrap pre (by decide)
    simpa using whole
  | false =>
    have whole := (h.wrap text (by decide)).wrap pre (by decide)
    simpa using whole

/-- The tags of a document are nested around those of its body. -/
lemma nested_documentTags {tags : List String} (h : Nested false tags) :
    Nested false (documentTags tags) := by
  have html : Opens "html" "<html>" := .bare rfl
  have head : Opens "head" "<head>" := .bare rfl
  have title : Opens "title" "<title>" := .bare rfl
  have style : Opens "style" "<style>" := .bare rfl
  have body : Opens "body" "<body>" := .bare rfl
  have titled : Nested false ["<title>", "</title>"] := .element title (by decide) .nil .nil
  have styled : Nested false ["<style>", "</style>"] := .element style (by decide) .nil .nil
  have described : Nested false
      ["<meta charset=\"utf-8\">", "<title>", "</title>", "<style>", "</style>"] :=
    .lone (by decide) (titled.append styled)
  have page := ((described.wrap head (by decide)).append (h.wrap body (by decide))).wrap html
    (by decide)
  have typed : "<!DOCTYPE html>" ∈ loneTags := by decide
  simpa [documentTags] using Nested.lone typed page

/-- The tags of a rendering are properly nested. -/
lemma nested_tags (r : Rendering) (lines : Nat) (kinds : List Kind) :
    Nested false (r.tags lines kinds) := by
  have container := nested_containerTags r lines (nested_kinds kinds)
  unfold Rendering.tags
  cases r.standalone with
  | true => exact nested_documentTags container
  | false => exact container

/-- Every source is rendered, and the tags of the markup are those of the options, of the lines and
of the kinds of its tokens and no others, with no bracket outside of them. So the tags are properly
nested, with no span in another, and neither the title nor what the tokens hold changes them. -/
theorem Rendering.tagsOf_toHtml (r : Rendering) (source : Text) :
    ∃ s html, scan source = .ok s ∧ r.toHtml source = .ok html ∧
      tagsOf html = r.tags (lineCount source) (s.tokens.map (·.kind)) ∧
      (cut html).flatMap Segment.chars = html ∧
      (∀ c ∈ textOf html, c ≠ '<' ∧ c ≠ '>') ∧
      Nested false (tagsOf html) ∧
      ∀ title other s' html', scan other = .ok s' →
        { r with title := title }.toHtml other = .ok html' →
        s'.tokens.map (·.kind) = s.tokens.map (·.kind) → lineCount other = lineCount source →
        tagsOf html' = tagsOf html := by
  obtain ⟨s, html, scanned, ok, shows⟩ := r.exists_shows_toHtml source
  refine ⟨s, html, scanned, ok, shows.tagsOf_eq, flatMap_chars_cut html, ?_, ?_, ?_⟩
  · rw [shows.textOf_eq]
    exact not_mem_escaped _
  · rw [shows.tagsOf_eq]
    exact nested_tags r _ _
  · intro title other s' html' scanned' ok' kinds lines
    obtain ⟨s'', html'', scanned'', ok'', shows'⟩ :=
      exists_shows_toHtml { r with title := title } other
    obtain rfl : s'' = s' := Except.ok.inj (scanned''.symm.trans scanned')
    obtain rfl : html'' = html' := Except.ok.inj (ok''.symm.trans ok')
    rw [shows'.tagsOf_eq, shows.tagsOf_eq, kinds, lines]
    rfl

end Highlight
