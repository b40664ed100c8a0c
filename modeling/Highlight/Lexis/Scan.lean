import Highlight.Lexis.Issue
import Highlight.Lexis.Reading
import Highlight.Lexis.Vocabulary

/-!
# Scanning

A scan cuts a source into lexemes from left to right. The character at hand decides which form is
read; a step that takes nothing gives the character up as `Kind.stalled`, so every step goes on by
a character at least and the scan ends.

Main facts:

* `Cursor.dispatch_next`: a step goes on behind a text that it took.
* `Cursor.length_next_lt`: the rest is shorter after a step.
-/

namespace Highlight

/-- What one step of a scan took, and the place behind it. -/
structure Step where
  lexemes : List Lexeme
  next : Cursor
deriving DecidableEq, Repr

namespace Cursor

/-- The lexeme that `text` is at a place. -/
def lexeme (cur : Cursor) (kind : Kind) (text : Text) : Lexeme :=
  ⟨⟨kind, cur.offset, cur.offset + text.size⟩, text⟩

/-- Takes `text` at a place. An empty text is no lexeme. -/
def take (cur : Cursor) (kind : Kind) (text : Text) : Step :=
  ⟨if text.isEmpty then [] else [cur.lexeme kind text], cur.advance text⟩

/-- Reads a form at a place and takes what was read; its kind depends on the reading. -/
def takeForm (cur : Cursor) (form : Form) (kind : Reading → Kind) : Except DelimiterError Step :=
  match form.read cur with
  | .ok reading => .ok (cur.take (kind reading) reading.text)
  | .error e => .error e

/-- Takes the dot at a place. Before a digit it begins a number. Otherwise it stands alone, and a
word behind it is the name of a member, which has no meaning of its own: in `x.len` there is no
built-in. -/
def takeDot (cur : Cursor) : Step :=
  let behind := cur.advance ['.']
  if behind.rest.head?.any isDigit then
    cur.take .number ('.' :: leadingNumber behind.rest)
  else
    let member := behind.take .ident (leadingWord behind.rest)
    ⟨cur.lexeme .punct ['.'] :: member.lexemes, member.next⟩

/-- Takes what begins with the character `c` at a place. -/
def dispatch (cur : Cursor) (c : Char) : Except DelimiterError Step :=
  if isWhiteSpace c then cur.takeForm .whiteSpace fun _ => .whitespace
  else if isQuote c then
    if (tripleQuote? cur.rest).isSome then
      cur.takeForm .docstring fun reading =>
        if reading.closing = .complete then .docstring else .unterminatedDocstring
    else
      cur.takeForm .string fun reading =>
        if reading.closing = .complete then .string else .unterminatedString
  else if isDigit c then cur.takeForm .number fun _ => .number
  else if continuesWord c then cur.takeForm .word fun reading => classify reading.text
  else if c = '.' then .ok cur.takeDot
  else if c = '#' then cur.takeForm .comment fun _ => .comment
  else .ok (cur.take .punct [c])

/-- One step of a scan, or nothing at the end of the text. Where the character at hand begins
nothing, it is taken alone. -/
def step (cur : Cursor) : Except DelimiterError (Option Step) :=
  match cur.rest with
  | [] => .ok none
  | c :: _ =>
    match cur.dispatch c with
    | .error e => .error e
    | .ok s => .ok (some (if s.next.offset ≤ cur.offset then cur.take .stalled [c] else s))

/-- Two advances are one over both texts. -/
theorem advance_append (cur : Cursor) (s t : Text) :
    (cur.advance s).advance t = cur.advance (s ++ t) := by
  simp [advance, Nat.add_assoc, List.drop_drop]

/-- A reading goes on behind the text that was read. -/
theorem takeForm_next {cur : Cursor} {form : Form} {kind : Reading → Kind} {s : Step}
    (h : cur.takeForm form kind = .ok s) : ∃ text, s.next = cur.advance text := by
  unfold takeForm at h
  split at h
  · cases h
    exact ⟨_, rfl⟩
  · contradiction

/-- A dot and what belongs to it are taken together. -/
theorem takeDot_next (cur : Cursor) : ∃ text, cur.takeDot.next = cur.advance text := by
  dsimp only [takeDot]
  split
  · exact ⟨_, rfl⟩
  · exact ⟨_, advance_append ..⟩

/-- A step goes on behind a text that it took. -/
theorem dispatch_next {cur : Cursor} {c : Char} {s : Step} (h : cur.dispatch c = .ok s) :
    ∃ text, s.next = cur.advance text := by
  unfold dispatch at h
  split at h
  · exact takeForm_next h
  split at h
  · split at h
    · exact takeForm_next h
    · exact takeForm_next h
  split at h
  · exact takeForm_next h
  split at h
  · exact takeForm_next h
  split at h
  · cases h
    exact takeDot_next cur
  split at h
  · exact takeForm_next h
  · cases h
    exact ⟨_, rfl⟩

/-- Behind some text the rest is shorter. -/
theorem length_advance_lt {cur : Cursor} {text : Text} (hrest : cur.rest ≠ []) (htext : text ≠ []) :
    (cur.advance text).rest.length < cur.rest.length := by
  have hr := List.length_pos_iff.2 hrest
  have ht := List.length_pos_iff.2 htext
  simp only [advance, List.length_drop]
  omega

/-- The rest is shorter after a step. -/
theorem length_next_lt {cur : Cursor} {s : Step} (h : cur.step = .ok (some s)) :
    s.next.rest.length < cur.rest.length := by
  unfold step at h
  split at h
  · cases h
  · next c t hrest =>
    split at h
    · cases h
    · next s' hs =>
      have hne : cur.rest ≠ [] := by simp [hrest]
      cases h
      split
      · exact length_advance_lt hne (List.cons_ne_nil _ _)
      · next hoff =>
        obtain ⟨text, htext⟩ := dispatch_next hs
        rw [htext] at hoff ⊢
        refine length_advance_lt hne fun hnil => hoff ?_
        simp [hnil, advance]

/-- Scans the rest of a text, behind the lexemes found before. -/
def scanBehind (cur : Cursor) (found : Array Lexeme) : Except DelimiterError (Array Lexeme) :=
  match _h : cur.step with
  | .error e => .error e
  | .ok none => .ok found
  | .ok (some s) => s.next.scanBehind (found ++ s.lexemes)
termination_by cur.rest.length
decreasing_by exact length_next_lt ‹_›

end Cursor

/-- A source and its lexemes, in order. -/
structure Scan where
  source : Text
  lexemes : List Lexeme
deriving DecidableEq, Repr

/-- Cuts a source into lexemes. -/
def scan (source : Text) : Except DelimiterError Scan :=
  match (Cursor.start source).scanBehind #[] with
  | .ok lexemes => .ok ⟨source, lexemes.toList⟩
  | .error e => .error e

namespace Scan

/-- The tokens of a scan. -/
def tokens (s : Scan) : List Token := s.lexemes.map Lexeme.toToken

/-- The issues of a scan, in order. -/
def issues (s : Scan) : List Issue := s.lexemes.filterMap (·.issue?)

/-- Whether a scan met an error in the source. -/
def hasIssues (s : Scan) : Bool := s.lexemes.any (·.kind.isError)

end Scan

end Highlight
