import Highlight.Lexis.Span

/-!
# Issues

An issue is a place where the source is not right: an unclosed quote, or a character that starts
nothing. A scan goes on behind it.
-/

namespace Highlight

/-- What is wrong at an erroneous token. -/
inductive Problem where
  /-- A string that its line or the text ends. -/
  | unterminatedString
  /-- A triple-quoted string that the text ends. -/
  | unterminatedDocstring
  /-- A character that starts nothing. -/
  | stalledProgress
deriving DecidableEq, Repr

/-- The wording of a problem. -/
def Problem.message : Problem → String
  | unterminatedString => "unterminated string literal"
  | unterminatedDocstring => "unterminated docstring"
  | stalledProgress => "unrecognized character"

/-- The problem with tokens of a kind. -/
def Kind.problem? : Kind → Option Problem
  | unterminatedString => some .unterminatedString
  | unterminatedDocstring => some .unterminatedDocstring
  | stalled => some .stalledProgress
  | _ => none

/-- A problem and the span at which it stands. -/
structure Issue where
  problem : Problem
  span : Span
deriving DecidableEq, Repr

/-- An issue as it is reported. -/
def Issue.describe (i : Issue) : Text :=
  i.problem.message.toList ++ " at ".toList ++ i.span.describe

/-- The issue of a token, if there is one. -/
def Token.issue? (t : Token) : Option Issue := t.kind.problem?.map fun p => ⟨p, t.span⟩

end Highlight
