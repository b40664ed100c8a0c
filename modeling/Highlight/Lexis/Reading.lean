import Highlight.Lexis.Form
import Highlight.Text.Quoted
import Highlight.Text.Search

/-!
# Reading at a place of a text

A cursor is a place of a text between two characters. A form is read at a cursor (`Form.read`), from
the rest of the text, or at a byte offset of the whole text (`Form.readAt`), which may be no such
place. Readings can follow one another: each starts where the one before it ended.
-/

namespace Highlight

/-- A place of a text: the number of bytes before it and the text from there on. -/
structure Cursor where
  offset : Nat
  rest : Text
deriving DecidableEq, Repr

namespace Cursor

/-- The beginning of a text. -/
def start (source : Text) : Cursor := ⟨0, source⟩

/-- The place of `source` at a byte offset, if it is one. -/
def at? (source : Text) (offset : Nat) : Option Cursor := (source.from? offset).map (⟨offset, ·⟩)

/-- Whether a place is the end of its text. -/
def atEnd (cur : Cursor) : Bool := cur.rest.isEmpty

/-- The place behind `text`, which stands at the front of the rest. -/
def advance (cur : Cursor) (text : Text) : Cursor :=
  ⟨cur.offset + text.size, cur.rest.drop text.length⟩

end Cursor

/-- A form that begins with a quote was to be read where there is none. -/
structure DelimiterError where
  offset : Nat
  expected : Delimiter
  found : Text
deriving DecidableEq, Repr

/-- The wording of a missing delimiter. -/
def DelimiterError.message (e : DelimiterError) : Text :=
  "invalid delimiter at byte ".toList ++ Text.decimal e.offset ++ ": expected ".toList ++
    e.expected.describe.toList ++ ", found ".toList ++ e.found.quoted

/-- What was read of a form, and the place behind it. -/
structure Reading extends Taken where
  next : Cursor
deriving DecidableEq, Repr

/-- Why nothing was read at an offset. -/
inductive ReadError where
  /-- The offset lies behind the end of the text or inside a character. -/
  | outside (offset : Nat)
  /-- The opening quote is missing. -/
  | delimiter (cause : DelimiterError)
deriving DecidableEq, Repr

/-- What is read of a source from one offset to another. Only what lies between two boundaries in
order can be read. -/
def Reading.between (source : Text) (start stop : Nat) (closing : Closing) :
    Except ReadError Reading :=
  match source.slice? start stop, Cursor.at? source stop with
  | some text, some next => .ok ⟨⟨text, closing⟩, next⟩
  | _, _ => .error (.outside start)

namespace Form

/-- Reads a form at a place. -/
def read (form : Form) (cur : Cursor) : Except DelimiterError Reading :=
  match form.take cur.rest with
  | .ok taken => .ok ⟨taken, cur.advance taken.text⟩
  | .error expected => .error ⟨cur.offset, expected, cur.rest.take expected.length⟩

/-! ## Reading at a byte offset

The end of what is read is reckoned as an offset of the whole source: from the offset of a
character or of an occurrence behind the start, or as the end of the source. -/

/-- Where a run of fitting characters stops: at the first of the characters that does not fit, or
with the source. The offsets of the characters count from `start`. -/
def runStop (source : Text) (start : Nat) (fits : Char → Bool) (chars : List (Nat × Char)) : Nat :=
  match chars.find? fun (_, c) => !fits c with
  | some (i, _) => start + i
  | none => source.size

/-- Reads a run of fitting characters. -/
def readRun (fits : Char → Bool) (source : Text) (start : Nat) : Except ReadError Reading :=
  match source.from? start with
  | some rest => Reading.between source start (runStop source start fits rest.indexed) .complete
  | none => .error (.outside start)

/-- Reads a word. The run behind its first character goes on with the offsets of the word. -/
def readWord (source : Text) (start : Nat) : Except ReadError Reading :=
  match source.from? start with
  | some rest =>
    match rest.indexed with
    | (_, c) :: chars =>
      if startsWord c then
        Reading.between source start (runStop source start continuesWord chars) .complete
      else Reading.between source start start .complete
    | [] => Reading.between source start start .complete
  | none => .error (.outside start)

/-- Reads the rest of a line, whose end is searched for in the bytes. -/
def readComment (find : ByteSearch) (source : Text) (start : Nat) : Except ReadError Reading :=
  match find [0x0A] (source.bytes.drop start) with
  | some i => Reading.between source start (start + i) .complete
  | none => Reading.between source start source.size .complete

/-- Reads a docstring, whose closing triple quote is searched for in the bytes behind the opening
one. -/
def readDocstring (find : ByteSearch) (source : Text) (start : Nat) : Except ReadError Reading :=
  let missing := .error (.delimiter ⟨start, .tripleQuote, ((source.from? start).getD []).take 3⟩)
  match source.slice? start (start + 3) with
  | some opening =>
    if opening = ['\'', '\'', '\''] ∨ opening = ['"', '"', '"'] then
      let body := start + 3
      match find opening.bytes (source.bytes.drop body) with
      | some i => Reading.between source start (body + i + 3) .complete
      | none => Reading.between source start source.size .unterminated
    else missing
  | none => missing

/-- Where a string stops, and whether it was closed: before a newline, behind the next `quote`, or
with the source. A backslash passes over the next character. The offsets of the characters count
from `body`. -/
def stringStop (source : Text) (body : Nat) (quote : Char) : List (Nat × Char) → Nat × Closing
  | [] => (source.size, .unterminated)
  | (_, '\\') :: _ :: chars => stringStop source body quote chars
  | (i, c) :: chars =>
    if c = '\n' then (body + i, .unterminated)
    else if c = quote then (body + i + 1, .complete)
    else stringStop source body quote chars

/-- Reads a string. -/
def readString (source : Text) (start : Nat) : Except ReadError Reading :=
  match (source.from? start).getD [] with
  | quote :: _ =>
    if isQuote quote then
      let body := start + 1
      match source.from? body with
      | some rest =>
        let (stop, closing) := stringStop source body quote rest.indexed
        Reading.between source start stop closing
      | none => .error (.outside body)
    else .error (.delimiter ⟨start, .quote, [quote]⟩)
  | [] => .error (.delimiter ⟨start, .quote, []⟩)

/-- Reads a form at a byte offset, with a search for the ends that are looked for in the bytes. Where
the offset is no place of the text, the forms that begin with a quote find nothing there, and the
others cannot be read at all. -/
def readWith (find : ByteSearch) (form : Form) (source : Text) (offset : Nat) :
    Except ReadError Reading :=
  match form with
  | whiteSpace => readRun isWhiteSpace source offset
  | docstring => readDocstring find source offset
  | string => readString source offset
  | number => readRun isNumberPart source offset
  | word => readWord source offset
  | comment => readComment find source offset

/-- Reads a form at a byte offset. -/
def readAt (form : Form) (source : Text) (offset : Nat) : Except ReadError Reading :=
  form.readWith firstOffset? source offset

/-- Reads forms one after the other from an offset on. A reading that fails leaves the offset where
it is. Gives what became of each, and the last offset. -/
def readAll (source : Text) : List Form → Nat → List (Except ReadError Reading) × Nat
  | [], offset => ([], offset)
  | form :: forms, offset =>
    match form.readAt source offset with
    | .ok reading =>
      let (outcomes, last) := readAll source forms reading.next.offset
      (.ok reading :: outcomes, last)
    | .error e =>
      let (outcomes, last) := readAll source forms offset
      (.error e :: outcomes, last)

end Form

/-- Whether the bytes of `source` from `offset` on begin with a triple quote. -/
def opensDocstringAt (source : Text) (offset : Nat) : Bool :=
  let front := (source.bytes.drop offset).take 3
  front == [0x27, 0x27, 0x27] || front == [0x22, 0x22, 0x22]

end Highlight
