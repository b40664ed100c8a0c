import Highlight.Text.Basic

/-!
# Entities

Four characters cannot stand for themselves in markup and are written as entities. Most texts hold
none of them, so `escape` looks for the first one: what stands before it is kept as it is, and a
text without one is not changed at all.
-/

namespace Highlight

/-- How a character stands in markup. -/
def entity : Char → Text
  | '&' => "&amp;".toList
  | '<' => "&lt;".toList
  | '>' => "&gt;".toList
  | '"' => "&quot;".toList
  | c => [c]

/-- The first of two offsets, or the only one. -/
def firstOf? : Option Nat → Option Nat → Option Nat
  | some i, some j => some (min i j)
  | some i, none => some i
  | none, some j => some j
  | none, none => none

/-- The byte offset of the first character of a text that is written as an entity. All four are
ASCII, so that the search can go through the bytes; it looks for the quote apart. -/
def firstReserved? (t : Text) : Option Nat :=
  let bytes := t.bytes
  let tagOrEntity := bytes.findIdx? fun b => b == 0x26 || b == 0x3C || b == 0x3E
  let quote := bytes.findIdx? (· == 0x22)
  firstOf? tagOrEntity quote

/-- A text made fit for markup. -/
inductive Escaped where
  /-- Nothing had to be written as an entity. -/
  | unchanged (text : Text)
  /-- Some characters are written as entities. -/
  | changed (html : Text)
deriving DecidableEq, Repr

/-- The markup that shows an escaped text. -/
def Escaped.html : Escaped → Text
  | unchanged text => text
  | changed html => html

/-- Whether escaping changed nothing. -/
def Escaped.isUnchanged : Escaped → Bool
  | unchanged _ => true
  | changed _ => false

/-- Writes the reserved characters of a text as entities. An entity in the text is itself escaped,
so this is done once. -/
def escape (t : Text) : Escaped :=
  match firstReserved? t with
  | none => .unchanged t
  | some i =>
    let (front, back) := t.divide i
    .changed (front ++ back.flatMap entity)

/-- The markup that shows a text. -/
def escaped (t : Text) : Text := (escape t).html

end Highlight
