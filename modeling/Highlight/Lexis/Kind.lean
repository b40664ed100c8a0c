/-!
# Kinds of tokens

Every stretch of a scanned text has a kind. The codes of the kinds are grouped: literals and words
below 8, stretches that are passed on as they are from 16, and errors from 240.
-/

namespace Highlight

/-- What a stretch of Python source is. -/
inductive Kind where
  /-- A name of the program's own: a variable, a function, an attribute. -/
  | ident
  /-- One of the defined constants. -/
  | constant
  /-- A reserved keyword. -/
  | keyword
  /-- The name of a built-in function or type. -/
  | builtin
  /-- A numeric literal. -/
  | number
  /-- A string between single or double quotes, quotes included. -/
  | string
  /-- A string between triple quotes, quotes included. -/
  | docstring
  /-- A comment up to the end of its line. -/
  | comment
  /-- A run of white space. -/
  | whitespace
  /-- Any other single character. -/
  | punct
  /-- A string that its line or the text ends. -/
  | unterminatedString
  /-- A triple-quoted string that the text ends. -/
  | unterminatedDocstring
  /-- One character that starts nothing. -/
  | stalled
deriving DecidableEq, Repr

namespace Kind

/-- The kinds, in order of their codes. -/
def all : List Kind :=
  [ident, constant, keyword, builtin, number, string, docstring, comment, whitespace, punct,
    unterminatedString, unterminatedDocstring, stalled]

/-- The name of a kind in listings. -/
def name : Kind → String
  | ident => "Ident"
  | constant => "Constant"
  | keyword => "Keyword"
  | builtin => "Builtin"
  | number => "Number"
  | string => "String"
  | docstring => "Docstring"
  | comment => "Comment"
  | whitespace => "Whitespace"
  | punct => "Punct"
  | unterminatedString => "UnterminatedString"
  | unterminatedDocstring => "UnterminatedDocstring"
  | stalled => "Stalled"

/-- The kind with a given name. -/
def ofName? (name : String) : Option Kind := all.find? (·.name == name)

/-- The code of a kind. -/
def code : Kind → Nat
  | ident => 0
  | constant => 1
  | keyword => 2
  | builtin => 3
  | number => 4
  | string => 5
  | docstring => 6
  | comment => 7
  | whitespace => 16
  | punct => 17
  | unterminatedString => 240
  | unterminatedDocstring => 241
  | stalled => 242

/-- Whether a stretch of this kind is an error in the source. -/
def isError (k : Kind) : Bool := 240 ≤ k.code

/-- Whether a stretch of this kind is a word. -/
def isWord : Kind → Bool
  | ident | constant | keyword | builtin => true
  | _ => false

/-- Whether a stretch of this kind is shown without being marked. -/
def isPlain : Kind → Bool
  | whitespace | punct => true
  | _ => false

end Kind

end Highlight
