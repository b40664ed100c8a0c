import Highlight.Lexis.Scan

/-!
# Listings

A listing shows a scan for inspection: a heading with the number of tokens, and a line for each
token with its kind, its span and its text, quoted.
-/

namespace Highlight

/-- The line of a lexeme in a listing. -/
def Lexeme.line (l : Lexeme) : Text :=
  "  ".toList ++ l.kind.name.toList ++ " @ ".toList ++ l.span.describe ++ [' '] ++ l.text.quoted ++
    ['\n']

namespace Scan

/-- The heading of a listing, with the name of the source. -/
def heading (label : String) (s : Scan) : Text :=
  "Tokens for '".toList ++ label.toList ++ "' (".toList ++ Text.decimal s.lexemes.length ++
    " tokens):\n".toList

/-- A scan, shown line by line. -/
def listing (label : String) (s : Scan) : Text :=
  s.heading label ++ s.lexemes.flatMap Lexeme.line

end Scan

end Highlight
