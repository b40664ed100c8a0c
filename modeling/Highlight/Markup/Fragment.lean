import Highlight.Lexis.Scan
import Highlight.Markup.Entity

/-!
# Fragments of markup

Markup is written piece by piece. A text is one piece, and a marked text five: the opening of a
span, its class, the end of the opening, the text, and the closing. A scan is written lexeme by
lexeme, marked by the class of its kind.
-/

namespace Highlight

/-- The class that marks a kind, if it is marked. -/
def Kind.cssClass? : Kind → Option String
  | whitespace | punct => none
  | docstring => some "codeDocstr"
  | unterminatedDocstring => some "codeDocstr codeErr"
  | string => some "codeStr"
  | unterminatedString => some "codeStr codeErr"
  | number => some "codeNum"
  | ident => some "codeWord"
  | constant => some "codeDefCnst"
  | keyword => some "codeKey"
  | builtin => some "codeBuiltIn"
  | comment => some "codeComm"
  | stalled => some "codeErr"

/-- The pieces of a text. -/
def textFragments (text : Text) : List Text := [escaped text]

/-- The pieces of a text marked by a class. -/
def spanFragments (cssClass text : Text) : List Text :=
  ["<span class='".toList, cssClass, "'>".toList, escaped text, "</span>".toList]

/-- The pieces of a lexeme. -/
def Lexeme.fragments (l : Lexeme) : List Text :=
  match l.kind.cssClass? with
  | some cssClass => spanFragments cssClass.toList l.text
  | none => textFragments l.text

/-- The pieces of a scan. -/
def Scan.fragments (s : Scan) : List Text := s.lexemes.flatMap Lexeme.fragments

/-- The markup of a scan, without anything around it. -/
def Scan.markup (s : Scan) : Text := s.fragments.flatten

/-- Markup that is being written. -/
structure Sheet where
  html : Text := []
deriving DecidableEq, Repr

namespace Sheet

/-- Writes one piece of markup as it is. -/
def put (sheet : Sheet) (fragment : Text) : Sheet := ⟨sheet.html ++ fragment⟩

/-- Writes pieces of markup one after the other. -/
def putAll (sheet : Sheet) (fragments : List Text) : Sheet := fragments.foldl put sheet

/-- Writes a text. -/
def putText (sheet : Sheet) (text : Text) : Sheet := sheet.putAll (textFragments text)

/-- Writes a text marked by a class, which is not escaped. -/
def putSpan (sheet : Sheet) (cssClass text : Text) : Sheet :=
  sheet.putAll (spanFragments cssClass text)

/-- Writes a scan. -/
def putScan (sheet : Sheet) (s : Scan) : Sheet := sheet.putAll s.fragments

/-- The number of bytes written. -/
def length (sheet : Sheet) : Nat := sheet.html.size

/-- Whether nothing is written. -/
def isEmpty (sheet : Sheet) : Bool := sheet.html.isEmpty

end Sheet

end Highlight
