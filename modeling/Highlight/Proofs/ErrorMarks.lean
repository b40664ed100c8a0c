import Highlight.Proofs.Content
import Mathlib.Data.List.Forall2
import Mathlib.Data.List.Infix

/-!
# Issues and the marks of errors

Three functions tell errors from other tokens: `Kind.problem?` gives the issues of a scan,
`Kind.isError` says whether there are any, and `Kind.cssClass?` marks errors in the markup. They
agree on every scan and every rendering of it.

The mark of an error ends with the bracket that closes a tag. No bracket stands outside of tags, so
every occurrence of the mark is the end of a tag (`occurrences_eq_countP_tags`), and of all tags of
a rendering only those of erroneous kinds end with it (`Rendering.countP_tags`).
-/

namespace Highlight

/-! ### Issues -/

/-- The kinds of tokens that are errors. -/
def errorKinds : List Kind := [.unterminatedString, .unterminatedDocstring, .stalled]

/-- An issue reports a token that has its span and a kind that its problem belongs to. -/
inductive Reports : Issue → Token → Prop where
  | string {span} :
    Reports ⟨.unterminatedString, span⟩ ⟨.unterminatedString, span⟩
  | docstring {span} :
    Reports ⟨.unterminatedDocstring, span⟩ ⟨.unterminatedDocstring, span⟩
  | stalled {span} :
    Reports ⟨.stalledProgress, span⟩ ⟨.stalled, span⟩

/-- The test for the kinds that are errors. -/
lemma Kind.isError_iff (k : Kind) : k.isError = true ↔ k ∈ errorKinds := by
  cases k <;> decide

/-- A token of an erroneous kind has an issue that reports it, and no other token has one. -/
lemma Token.issue?_cases (t : Token) :
    (t.kind ∈ errorKinds ∧ ∃ i, t.issue? = some i ∧ Reports i t) ∨
      (t.kind ∉ errorKinds ∧ t.issue? = none) := by
  obtain ⟨kind, span⟩ := t
  rw [← Kind.isError_iff]
  cases kind with
  | unterminatedString => exact .inl ⟨rfl, _, rfl, .string⟩
  | unterminatedDocstring => exact .inl ⟨rfl, _, rfl, .docstring⟩
  | stalled => exact .inl ⟨rfl, _, rfl, .stalled⟩
  | _ => exact .inr ⟨Bool.false_ne_true, rfl⟩

/-- The issues of some tokens report the erroneous ones, in their order. -/
lemma forall₂_reports (tokens : List Token) :
    List.Forall₂ Reports (tokens.filterMap Token.issue?)
      (tokens.filter fun t => t.kind ∈ errorKinds) := by
  induction tokens with
  | nil => exact .nil
  | cons t tokens ih =>
    rcases t.issue?_cases with ⟨mem, i, issue, reports⟩ | ⟨not_mem, issue⟩
    · rw [List.filterMap_cons_some issue, List.filter_cons_of_pos (by simpa using mem)]
      exact .cons reports ih
    · rw [List.filterMap_cons_none issue, List.filter_cons_of_neg (by simpa using not_mem)]
      exact ih

namespace Scan

/-- The issues of a scan are those of its tokens. -/
lemma issues_eq (s : Scan) : s.issues = s.tokens.filterMap Token.issue? := by
  rw [issues, tokens, List.filterMap_map]
  rfl

/-- The issues of a scan report its erroneous tokens, one each and in their order. -/
lemma issues_report (s : Scan) :
    List.Forall₂ Reports s.issues (s.tokens.filter fun t => t.kind ∈ errorKinds) := by
  rw [issues_eq]
  exact forall₂_reports s.tokens

/-- There are as many issues as erroneous tokens. -/
lemma length_issues (s : Scan) :
    s.issues.length = (s.tokens.map (·.kind)).countP Kind.isError := by
  rw [s.issues_report.length_eq, ← List.countP_eq_length_filter, List.countP_map]
  refine List.countP_congr fun t _ => ?_
  rw [Function.comp_apply, Kind.isError_iff, decide_eq_true_iff]

/-- A scan met an error if it has an issue. -/
lemma hasIssues_iff (s : Scan) : s.hasIssues = true ↔ s.issues ≠ [] := by
  rw [← List.length_pos_iff, length_issues, List.countP_pos_iff, hasIssues, List.any_eq_true]
  constructor
  · rintro ⟨l, mem, error⟩
    exact ⟨l.kind, List.mem_map_of_mem (List.mem_map_of_mem mem), error⟩
  · rintro ⟨k, mem, error⟩
    obtain ⟨t, mem_t, rfl⟩ := List.mem_map.1 mem
    obtain ⟨l, mem_l, rfl⟩ := List.mem_map.1 mem_t
    exact ⟨l, mem_l, error⟩

end Scan

/-- On a way through a text no lexeme begins before the place or before the lexemes in front of it
end. -/
lemma Cursor.Leads.pairwise {cur last : Cursor} {lexemes : List Lexeme}
    (leads : Leads cur lexemes last) :
    (∀ l ∈ lexemes, cur.offset ≤ l.span.start) ∧
      lexemes.Pairwise fun l l' => l.span.stop ≤ l'.span.start := by
  induction leads with
  | nil => exact ⟨by simp, .nil⟩
  | @cons cur kind text lexemes last ne pre leads ih =>
    obtain ⟨starts, pairwise⟩ := ih
    have lt := offset_lt_advance cur ne
    refine ⟨?_, .cons starts pairwise⟩
    intro l mem
    rcases List.mem_cons.1 mem with rfl | mem
    · exact Nat.le_refl _
    · exact lt.le.trans (starts l mem)

/-- The issues of a source stand one behind the other in it. -/
lemma Scan.issues_pairwise {source : Text} {s : Scan} (ok : scan source = .ok s) :
    s.issues.Pairwise fun i j => i.span.stop ≤ j.span.start := by
  obtain ⟨lexemes, runs, ok'⟩ := Cursor.scan_runs source
  obtain rfl : s = ⟨source, lexemes⟩ := Except.ok.inj (ok.symm.trans ok')
  obtain ⟨last, -, leads⟩ := runs.leads
  rw [issues, List.pairwise_filterMap]
  refine leads.pairwise.2.imp ?_
  intro l l' le i mem j mem'
  obtain ⟨p, -, rfl⟩ := Option.map_eq_some_iff.1 mem
  obtain ⟨p', -, rfl⟩ := Option.map_eq_some_iff.1 mem'
  exact le

/-! ### Occurrences -/

/-- How often a text occurs in another: the number of places at which it begins. -/
def occurrences (sought t : Text) : Nat := t.tails.countP sought.isPrefixOf

/-- An occurrence begins at the first character or behind it. -/
lemma occurrences_cons (sought : Text) (c : Char) (t : Text) :
    occurrences sought (c :: t) =
      occurrences sought t + if sought <+: c :: t then 1 else 0 := by
  rw [occurrences, List.tails_cons, List.countP_cons]
  simp only [List.isPrefixOf_iff_prefix]
  rfl

/-- An occurrence ends at the last character or before it. -/
lemma occurrences_concat {sought : Text} (ne : sought ≠ []) (t : Text) (c : Char) :
    occurrences sought (t ++ [c]) =
      occurrences sought t + if sought <:+ t ++ [c] then 1 else 0 := by
  induction t with
  | nil =>
    have both : sought <+: [c] ↔ sought <:+ [c] := by
      rw [← List.nil_append [c], List.prefix_concat_iff, List.suffix_concat_iff]
      simp [ne]
    rw [List.nil_append, occurrences_cons]
    simp only [both]
  | cons d t ih =>
    -- the whole text is the one occurrence that does both
    have at_start : sought <+: d :: (t ++ [c]) ↔ sought = d :: (t ++ [c]) ∨ sought <+: d :: t := by
      rw [← List.cons_append, List.prefix_concat_iff]
    have at_end : sought <:+ d :: (t ++ [c]) ↔ sought = d :: (t ++ [c]) ∨ sought <:+ t ++ [c] :=
      List.suffix_cons_iff
    have not_before : sought = d :: (t ++ [c]) → ¬sought <+: d :: t := by
      rintro rfl pre
      exact absurd pre.length_le (by simp)
    have not_behind : sought = d :: (t ++ [c]) → ¬sought <:+ t ++ [c] := by
      rintro rfl suf
      exact absurd suf.length_le (by simp)
    rw [List.cons_append, occurrences_cons, occurrences_cons, ih]
    simp only [at_start, at_end]
    by_cases whole : sought = d :: (t ++ [c])
    · simp only [whole, true_or, if_true] at not_before not_behind ⊢
      rw [if_neg (not_before trivial), if_neg (not_behind trivial)]
    · simp only [whole, false_or]
      omega

/-- No occurrence ends within characters that the sought text does not end with. -/
lemma occurrences_append {sought s : Text} {last : Char} (free : last ∉ s) (t : Text) :
    occurrences (sought ++ [last]) (t ++ s) = occurrences (sought ++ [last]) t := by
  induction s generalizing t with
  | nil => rw [List.append_nil t]
  | cons c s ih =>
    rw [List.mem_cons, not_or] at free
    have not_here : ¬sought ++ [last] <:+ t ++ [c] := by
      have len : [last].length = [c].length := rfl
      intro suf
      obtain ⟨-, e⟩ := (List.suffix_append_inj_of_length_eq len).1 suf
      exact free.1 (List.singleton_inj.1 e)
    rw [List.append_cons t, ih free.2, occurrences_concat (by simp), if_neg not_here, Nat.add_zero]

/-! ### Ends of tags -/

/-- A tag as markup is cut into them: a bracket opens it and the first one that closes ends it. -/
def IsTag (s : String) : Prop := ∃ name, s.toList = '<' :: (name ++ ['>']) ∧ '>' ∉ name

/-- What is cut out as a tag is one. -/
lemma isTag_of_mem_cutBehind {front? : Option Text} {t : Text}
    (opened : ∀ front ∈ front?, ∃ name, front = '<' :: name ∧ '>' ∉ name) :
    ∀ s, Segment.tag s ∈ cutBehind front? t → IsTag s := by
  fun_induction cutBehind front? t with
  | case1 => simp
  | case2 front => simp
  | case3 t ih =>
    refine ih ?_
    rintro front ⟨⟩
    exact ⟨[], rfl, by simp⟩
  | case4 c t _ ih => simpa using ih (by simp)
  | case5 front t ih =>
    intro s mem
    rcases List.mem_cons.1 mem with e | mem
    · cases e
      obtain ⟨name, rfl, free⟩ := opened front rfl
      exact ⟨name, by rw [String.toList_ofList, List.cons_append], free⟩
    · exact ih (by simp) s mem
  | case6 front c t ne ih =>
    refine ih ?_
    rintro _ ⟨⟩
    obtain ⟨name, rfl, free⟩ := opened front rfl
    refine ⟨name ++ [c], rfl, ?_⟩
    simpa [free] using Ne.symm ne

/-- A text without an opening bracket that ends with a tag lies in it. -/
lemma suffix_append_tag_iff {sought name : Text} (free : '<' ∉ sought) (t : Text) :
    sought <:+ t ++ '<' :: name ↔ sought <:+ '<' :: name := by
  have tag : '<' :: name <:+ t ++ '<' :: name := List.suffix_append t ('<' :: name)
  constructor
  · intro suf
    rcases List.suffix_or_suffix_of_suffix suf tag with inside | around
    · exact inside
    · exact absurd (around.subset List.mem_cons_self) free
  · exact fun inside => inside.trans tag

/-- The last tag has an occurrence at its end or none at all. -/
lemma occurrences_append_tag {sought : Text} (free : '<' ∉ sought) {s : String} (tag : IsTag s)
    (t : Text) :
    occurrences (sought ++ ['>']) (t ++ s.toList) =
      occurrences (sought ++ ['>']) t + if sought ++ ['>'] <:+ s.toList then 1 else 0 := by
  obtain ⟨name, e, gt⟩ := tag
  have inside : '>' ∉ '<' :: name := by simpa using gt
  have free' : '<' ∉ sought ++ ['>'] := by simpa using free
  have split : t ++ '<' :: (name ++ ['>']) = (t ++ '<' :: name) ++ ['>'] := by simp
  have at_end : sought ++ ['>'] <:+ t ++ '<' :: (name ++ ['>']) ↔
      sought ++ ['>'] <:+ '<' :: (name ++ ['>']) := suffix_append_tag_iff free' t
  rw [e, split, occurrences_concat (by simp), occurrences_append inside, ← split]
  simp only [at_end]

/-- Where no bracket stands outside of the tags, every occurrence of a text that ends with one is at
the end of a tag. -/
lemma occurrences_flatMap_chars {sought : Text} (free : '<' ∉ sought) (segments : List Segment)
    (tags : ∀ s, .tag s ∈ segments → IsTag s) (chars : ∀ c, .char c ∈ segments → c ≠ '>') :
    occurrences (sought ++ ['>']) (segments.flatMap Segment.chars) =
      (segments.filterMap Segment.tag?).countP fun s => sought ++ ['>'] <:+ s.toList := by
  -- occurrences are told by their ends, so segments are added at the end
  induction segments using List.reverseRecOn with
  | nil => simp [occurrences]
  | append_singleton segments segment ih =>
    have ih := ih (fun s mem => tags s (List.mem_append_left _ mem))
      (fun c mem => chars c (List.mem_append_left _ mem))
    rw [List.flatMap_append, List.filterMap_append, List.countP_append, ← ih]
    cases segment with
    | tag s =>
      have tag := tags s (List.mem_append_right _ List.mem_cons_self)
      rw [List.flatMap_singleton, Segment.chars, occurrences_append_tag free tag]
      simp [Segment.tag?, List.countP_cons]
    | char c =>
      have ne := chars c (List.mem_append_right _ List.mem_cons_self)
      rw [List.flatMap_singleton, Segment.chars, occurrences_append (by simpa using ne.symm)]
      rfl

/-- What ends with the bracket that closes a tag occurs only at the end of tags. -/
lemma occurrences_eq_countP_tags {sought html : Text} (free : '<' ∉ sought)
    (gt : '>' ∉ textOf html) :
    occurrences (sought ++ ['>']) html =
      (tagsOf html).countP fun s => sought ++ ['>'] <:+ s.toList := by
  have tags : ∀ s, .tag s ∈ cut html → IsTag s := isTag_of_mem_cutBehind (by simp)
  have chars : ∀ c, .char c ∈ cut html → c ≠ '>' := by
    rintro c mem rfl
    exact gt (List.mem_filterMap.2 ⟨_, mem, rfl⟩)
  have count := occurrences_flatMap_chars free (cut html) tags chars
  rw [flatMap_chars_cut] at count
  exact count

/-! ### Marks of errors -/

/-- How the tag that marks an error ends, but for its bracket. -/
def errorMark : Text := "codeErr'".toList

/-- Whether a tag marks an error. -/
def marksError (s : String) : Bool := errorMark ++ ['>'] <:+ s.toList

/-- A kind is marked as an error if it is one. -/
lemma countP_kindTags (k : Kind) : k.tags.countP marksError = if k.isError then 1 else 0 := by
  cases k <;> decide

/-- Of the tags of some tokens, as many mark an error as there are errors. -/
lemma countP_kinds (kinds : List Kind) :
    (kinds.flatMap Kind.tags).countP marksError = kinds.countP Kind.isError := by
  induction kinds with
  | nil => rfl
  | cons k kinds ih =>
    rw [List.flatMap_cons, List.countP_append, countP_kindTags, ih, List.countP_cons, Nat.add_comm]

/-- No tag of a line number marks an error. -/
lemma countP_numberTags (lines : Nat) : (numberTags lines).countP marksError = 0 := by
  induction lines with
  | zero => rfl
  | succ lines ih =>
    have row : ["<div>", "</div>"].countP marksError = 0 := by decide
    rw [numberTags, List.replicate_succ, List.flatten_cons, List.countP_append, row, Nat.zero_add]
    exact ih

namespace Rendering

/-- No tag of a container marks an error. -/
lemma countP_containerTags (r : Rendering) (lines : Nat) (code : List String) :
    (r.containerTags lines code).countP marksError = code.countP marksError := by
  unfold containerTags
  cases r.lineNumbers with
  | true =>
    have opening : ["<pre class='python'>", "<table>", "<tbody style='vertical-align:top;'>", "<tr>",
        "<td>", "<div class='codeLN'>"].countP marksError = 0 := by decide
    have between : ["</div>", "</td>", "<td>", "<div class='codeText'>"].countP marksError = 0 := by
      decide
    have closing : ["</div>", "</td>", "</tr>", "</tbody>", "</table>", "</pre>"].countP marksError =
        0 := by decide
    simp only [if_true, List.countP_append, opening, between, closing, countP_numberTags,
      Nat.zero_add, Nat.add_zero]
  | false =>
    have opening : ["<pre class='python'>", "<div class='codeText'>"].countP marksError = 0 := by
      decide
    have closing : ["</div>", "</pre>"].countP marksError = 0 := by decide
    simp only [Bool.false_eq_true, if_false, List.countP_append, opening, closing, Nat.zero_add,
      Nat.add_zero]

/-- Of the tags of a rendering those of erroneous kinds mark errors, and no others. -/
lemma countP_tags (r : Rendering) (lines : Nat) (kinds : List Kind) :
    (r.tags lines kinds).countP marksError = kinds.countP Kind.isError := by
  have container := countP_containerTags r lines (kinds.flatMap Kind.tags)
  rw [countP_kinds] at container
  unfold tags
  cases r.standalone with
  | true =>
    have head : ["<!DOCTYPE html>", "<html>", "<head>", "<meta charset=\"utf-8\">", "<title>",
        "</title>", "<style>", "</style>", "</head>", "<body>"].countP marksError = 0 := by decide
    have foot : ["</body>", "</html>"].countP marksError = 0 := by decide
    simp only [if_true, documentTags, List.countP_append, head, foot, container, Nat.zero_add,
      Nat.add_zero]
  | false => exact container

/-- A scan has one issue for each token of an erroneous kind, in order and with its span, and knows
whether there are any. The markup has as many marks of errors as there are issues, whatever stands
in the source or in the title. -/
theorem occurrences_errorMark_toHtml (r : Rendering) (source : Text) :
    ∃ s html, scan source = .ok s ∧ r.toHtml source = .ok html ∧
      List.Forall₂ Reports s.issues (s.tokens.filter fun t => t.kind ∈ errorKinds) ∧
      s.issues.Pairwise (fun i j => i.span.stop ≤ j.span.start) ∧
      (s.hasIssues = true ↔ s.issues ≠ []) ∧
      occurrences "codeErr'>".toList html = s.issues.length := by
  obtain ⟨s, html, scanned, ok, shows⟩ := r.exists_shows_toHtml source
  refine ⟨s, html, scanned, ok, s.issues_report, s.issues_pairwise scanned, s.hasIssues_iff, ?_⟩
  have gt : '>' ∉ textOf html := by
    rw [shows.textOf_eq]
    exact fun mem => (not_mem_escaped _ '>' mem).2 rfl
  have lt : '<' ∉ errorMark := by decide
  calc occurrences "codeErr'>".toList html
    _ = (tagsOf html).countP marksError := occurrences_eq_countP_tags lt gt
    _ = (s.tokens.map (·.kind)).countP Kind.isError := by rw [shows.tagsOf_eq, countP_tags]
    _ = s.issues.length := s.length_issues.symm

end Rendering

end Highlight
