import Highlight.Lexis.Kind
import Highlight.Text.Basic

/-!
# Spans, tokens and lexemes

A span is a stretch of a text, by the bytes it begins and ends at. A token is a span with a kind,
and a lexeme a token with the text that it covers.
-/

namespace Highlight

/-- A stretch of a text from byte `start` up to byte `stop`. -/
structure Span where
  start : Nat
  stop : Nat
deriving DecidableEq, Repr

namespace Span

/-- The number of bytes of a span. -/
def length (s : Span) : Nat := s.stop - s.start

/-- Whether a span covers nothing. -/
def isEmpty (s : Span) : Bool := s.start == s.stop

/-- A span as it is written in messages, `3..7`. -/
def describe (s : Span) : Text := Text.decimal s.start ++ ['.', '.'] ++ Text.decimal s.stop

end Span

/-- A span of a text and what it is. -/
structure Token where
  kind : Kind
  span : Span
deriving DecidableEq, Repr

/-- A token as it is written for inspection. -/
def Token.describe (t : Token) : Text :=
  "Token \x7b tag: ".toList ++ t.kind.name.toList ++ ", span: ".toList ++ t.span.describe ++
    " \x7d".toList

/-- A token with the text that it covers. -/
structure Lexeme extends Token where
  text : Text
deriving DecidableEq, Repr

end Highlight
