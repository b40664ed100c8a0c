import Highlight.Text.Digit
import Highlight.Text.Numeral
import Highlight.Text.WhiteSpace
import Highlight.Text.Basic

/-!
# Lexical forms

Six forms of text can be read at the front of a text. White space, numbers, words and comments are
the longest run of fitting characters, perhaps none. Strings and docstrings begin with a quote and
end behind the quote that closes them, or unterminated.

A string ends at its line, except behind a backslash, which takes the next character whatever it
is. A docstring ends behind the first triple quote like its own; a backslash means nothing in it.
-/

namespace Highlight

/-- Whether a quote or triple quote was closed. Forms without quotes are always complete. -/
inductive Closing where
  | complete
  | unterminated
deriving DecidableEq, Repr

/-- What a form takes from the front of a text. -/
structure Taken where
  text : Text
  closing : Closing
deriving DecidableEq, Repr

namespace Taken

/-- The same taking with one more character in front. -/
def cons (c : Char) (taken : Taken) : Taken := { taken with text := c :: taken.text }

/-- A taking of a form that needs no closing. -/
def plain (text : Text) : Taken := ⟨text, .complete⟩

end Taken

/-- Whether a character is a quote. -/
def isQuote (c : Char) : Bool := c == '\'' || c == '"'

/-- Whether a character can stand in a number. -/
def isNumberPart (c : Char) : Bool := isDigit c || c == '.' || c == 'e' || c == 'E'

/-- Whether a character can begin a word. -/
def startsWord (c : Char) : Bool := isLetter c || c == '_'

/-- Whether a character can stand in a word behind its first one. -/
def continuesWord (c : Char) : Bool := isAlphanumeric c || c == '_'

/-- The white space at the front of a text. -/
def leadingWhiteSpace (t : Text) : Text := t.takeWhile isWhiteSpace

/-- The number at the front of a text. -/
def leadingNumber (t : Text) : Text := t.takeWhile isNumberPart

/-- The word at the front of a text. -/
def leadingWord : Text → Text
  | [] => []
  | c :: t => if startsWord c then c :: t.takeWhile continuesWord else []

/-- The rest of the line at the front of a text. -/
def leadingLine (t : Text) : Text := t.takeWhile (· != '\n')

/-- The quote that stands three times at the front of a text. -/
def tripleQuote? : Text → Option Char
  | a :: b :: c :: _ => if isQuote a && a == b && b == c then some a else none
  | _ => none

/-- What a docstring takes behind its opening, which is three times `quote`. -/
def docstringBody (quote : Char) : Text → Taken
  | [] => ⟨[], .unterminated⟩
  | c :: t =>
    if tripleQuote? (c :: t) = some quote then ⟨[quote, quote, quote], .complete⟩
    else (docstringBody quote t).cons c

/-- The docstring at the front of a text that begins with a triple quote. -/
def leadingDocstring? (t : Text) : Option Taken :=
  (tripleQuote? t).map fun quote =>
    (((docstringBody quote (t.drop 3)).cons quote).cons quote).cons quote

/-- What a string takes behind its opening `quote`. -/
def stringBody (quote : Char) : Text → Taken
  | [] => ⟨[], .unterminated⟩
  | '\\' :: c :: t => ((stringBody quote t).cons c).cons '\\'
  | c :: t =>
    if c = '\n' then ⟨[], .unterminated⟩
    else if c = quote then ⟨[c], .complete⟩
    else (stringBody quote t).cons c

/-- The string at the front of a text that begins with a quote. -/
def leadingString? : Text → Option Taken
  | [] => none
  | c :: t => if isQuote c then some ((stringBody c t).cons c) else none

/-- The forms that can be read at the front of a text. -/
inductive Form where
  | whiteSpace
  | docstring
  | string
  | number
  | word
  | comment
deriving DecidableEq, Repr

/-- What a form has to begin with. -/
inductive Delimiter where
  | tripleQuote
  | quote
deriving DecidableEq, Repr

namespace Delimiter

/-- A delimiter as messages name it. -/
def describe : Delimiter → String
  | tripleQuote => "''' or \"\"\""
  | quote => "' or \""

/-- The number of characters of a delimiter. -/
def length : Delimiter → Nat
  | tripleQuote => 3
  | quote => 1

end Delimiter

namespace Form

/-- What a form has to begin with, if it has to begin with something. -/
def delimiter? : Form → Option Delimiter
  | docstring => some .tripleQuote
  | string => some .quote
  | _ => none

/-- What a form takes from the front of a text, or the delimiter that is missing there. -/
def take : Form → Text → Except Delimiter Taken
  | whiteSpace, t => .ok (.plain (leadingWhiteSpace t))
  | docstring, t =>
    match leadingDocstring? t with
    | some taken => .ok taken
    | none => .error .tripleQuote
  | string, t =>
    match leadingString? t with
    | some taken => .ok taken
    | none => .error .quote
  | number, t => .ok (.plain (leadingNumber t))
  | word, t => .ok (.plain (leadingWord t))
  | comment, t => .ok (.plain (leadingLine t))

end Form

end Highlight
