import Highlight.Proofs.Escaping

/-!
# Tags and text of markup

Markup is cut at its brackets: what stands from a `<` up to the next `>` is a tag, and all else is
text. The cut loses nothing (`flatMap_chars_cut`), so the tags of markup together with its text are
all there is to it.

`Shows html tags text` says that `html` is cut into these tags and this text whatever is written
behind it. It goes with the way markup is written, piece by piece (`Shows.append`,
`Shows.flatMap`), and escaped text shows itself and no tag (`Shows.of_escaped`).
-/

namespace Highlight

/-- A piece of markup: a whole tag, or a character outside of all tags. -/
inductive Segment where
  | tag (markup : String)
  | char (c : Char)
deriving DecidableEq, Repr

namespace Segment

/-- What stands in the markup for a segment. -/
def chars : Segment → Text
  | tag markup => markup.toList
  | char c => [c]

/-- The tag that a segment is. -/
def tag? : Segment → Option String
  | tag markup => some markup
  | char _ => none

/-- The character that a segment is. -/
def char? : Segment → Option Char
  | tag _ => none
  | char c => some c

end Segment

/-- Cuts markup behind the front of a tag, if one has been read. -/
def cutBehind : Option Text → Text → List Segment
  | none, [] => []
  -- a bracket that is never closed begins no tag
  | some front, [] => front.map .char
  | none, c :: t => if c = '<' then cutBehind (some [c]) t else .char c :: cutBehind none t
  | some front, c :: t =>
    if c = '>' then .tag (String.ofList (front ++ [c])) :: cutBehind none t
    else cutBehind (some (front ++ [c])) t

/-- Cuts markup into its segments. -/
def cut (html : Text) : List Segment := cutBehind none html

/-- The tags of markup, in order. -/
def tagsOf (html : Text) : List String := (cut html).filterMap Segment.tag?

/-- What is left of markup without its tags. -/
def textOf (html : Text) : Text := (cut html).filterMap Segment.char?

/-- Characters spell the text that they are cut from. -/
lemma flatMap_chars_map_char (t : Text) : (t.map Segment.char).flatMap Segment.chars = t := by
  rw [List.flatMap_map]
  exact List.flatMap_singleton' t

/-- The segments are all of the markup, behind the front of a tag that has been read. -/
lemma flatMap_chars_cutBehind (front? : Option Text) (t : Text) :
    (cutBehind front? t).flatMap Segment.chars = front?.getD [] ++ t := by
  fun_induction cutBehind front? t with
  | case1 => rfl
  | case2 front =>
    rw [flatMap_chars_map_char, Option.getD_some, List.append_nil]
  | case3 t ih => exact ih
  | case4 c t _ ih => exact congrArg (c :: ·) ih
  | case5 front t ih =>
    rw [List.flatMap_cons, ih, Segment.chars, String.toList_ofList, List.append_assoc]
    rfl
  | case6 front c t _ ih =>
    rw [ih, Option.getD_some, List.append_assoc]
    rfl

/-- Nothing is lost by the cut. -/
lemma flatMap_chars_cut (html : Text) : (cut html).flatMap Segment.chars = html :=
  flatMap_chars_cutBehind none html

/-- Text without an opening bracket is cut into characters. -/
lemma cutBehind_none_append {s : Text} (lt : '<' ∉ s) (rest : Text) :
    cutBehind none (s ++ rest) = s.map .char ++ cutBehind none rest := by
  induction s with
  | nil => rfl
  | cons c s ih =>
    rw [List.mem_cons, not_or] at lt
    rw [List.cons_append, cutBehind, if_neg (Ne.symm lt.1), ih lt.2]
    rfl

/-- A tag goes on up to its closing bracket. -/
lemma cutBehind_some_append {s : Text} (gt : '>' ∉ s) (front rest : Text) :
    cutBehind (some front) (s ++ rest) = cutBehind (some (front ++ s)) rest := by
  induction s generalizing front with
  | nil => rw [List.nil_append, List.append_nil]
  | cons c s ih =>
    rw [List.mem_cons, not_or] at gt
    rw [List.cons_append, cutBehind, if_neg (Ne.symm gt.1), ih gt.2, List.append_assoc]
    rfl

/-- Markup that is cut into the tags and the text given, whatever is written behind it. -/
structure Shows (html : Text) (tags : List String) (text : Text) : Prop where
  tagsOf_append : ∀ rest, tagsOf (html ++ rest) = tags ++ tagsOf rest
  textOf_append : ∀ rest, textOf (html ++ rest) = text ++ textOf rest

namespace Shows

variable {html html' : Text} {tags tags' : List String} {text text' : Text}

/-- Markup has the tags that it shows. -/
lemma tagsOf_eq (h : Shows html tags text) : tagsOf html = tags := by
  have e := h.tagsOf_append []
  rw [List.append_nil] at e
  exact e.trans (List.append_nil tags)

/-- Markup has the text that it shows. -/
lemma textOf_eq (h : Shows html tags text) : textOf html = text := by
  have e := h.textOf_append []
  rw [List.append_nil] at e
  exact e.trans (List.append_nil text)

/-- Nothing shows nothing. -/
lemma nil : Shows [] [] [] := ⟨fun _ => rfl, fun _ => rfl⟩

/-- Markup is written piece by piece. -/
lemma append (h : Shows html tags text) (h' : Shows html' tags' text') :
    Shows (html ++ html') (tags ++ tags') (text ++ text') := by
  constructor
  · intro rest
    rw [List.append_assoc, h.tagsOf_append, h'.tagsOf_append, List.append_assoc]
  · intro rest
    rw [List.append_assoc, h.textOf_append, h'.textOf_append, List.append_assoc]

/-- Tags around some markup add no text to it. -/
lemma between {opening closing : Text} {before after : List String} (ho : Shows opening before [])
    (h : Shows html tags text) (hc : Shows closing after []) :
    Shows (opening ++ html ++ closing) (before ++ tags ++ after) text := by
  have whole := (ho.append h).append hc
  rw [List.nil_append, List.append_nil text] at whole
  exact whole

/-- Pieces of markup for the members of a list. -/
lemma flatMap {α : Type} {f : α → Text} {tags : α → List String} {text : α → Text}
    (h : ∀ a, Shows (f a) (tags a) (text a)) (l : List α) :
    Shows (l.flatMap f) (l.flatMap tags) (l.flatMap text) := by
  induction l with
  | nil => exact nil
  | cons a l ih => exact (h a).append ih

/-- Where no tag is opened, all is text. -/
lemma of_not_mem (lt : '<' ∉ text) : Shows text [] text := by
  constructor
  · intro rest
    have none : (text.map Segment.char).filterMap Segment.tag? = [] := by
      rw [List.filterMap_map]
      exact List.filterMap_eq_nil_iff.2 fun _ _ => rfl
    rw [tagsOf, cut, cutBehind_none_append lt, List.filterMap_append, none]
    rfl
  · intro rest
    have all : (text.map Segment.char).filterMap Segment.char? = text := by
      rw [List.filterMap_map]
      exact List.filterMap_some
    rw [textOf, cut, cutBehind_none_append lt, List.filterMap_append, all]
    rfl

/-- An escaped text shows itself. -/
lemma of_escaped (t : Text) : Shows (escaped t) [] (escaped t) :=
  of_not_mem fun mem => (not_mem_escaped t '<' mem).1 rfl

/-- A tag ends at the first closing bracket and shows no text. -/
lemma tag {s : String} {name : Text} (e : s.toList = '<' :: (name ++ ['>'])) (gt : '>' ∉ name) :
    Shows s.toList [s] [] := by
  have segments : ∀ rest, cut (s.toList ++ rest) = .tag s :: cut rest := by
    intro rest
    have markup : String.ofList ('<' :: (name ++ ['>'])) = s := by
      rw [← e, String.ofList_toList]
    rw [e, cut, List.cons_append, List.append_assoc, cutBehind, if_pos rfl,
      cutBehind_some_append gt, ← markup]
    rfl
  constructor
  · intro rest
    rw [tagsOf, segments]
    rfl
  · intro rest
    rw [textOf, segments]
    rfl

/-- A fixed piece of markup, given by its characters. -/
lemma ofList {s : String} {l : Text} (e : s = String.ofList l) (h : Shows l tags text) :
    Shows s.toList tags text := by
  rw [e, String.toList_ofList]
  exact h

end Shows

end Highlight
