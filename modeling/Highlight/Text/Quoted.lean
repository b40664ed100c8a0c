import Highlight.Text.Basic
import Highlight.Text.Concealed

/-!
# Quoted texts

A quoted text stands between double quotes and shows every character of the text on one line:
control characters, the backslash and the double quote by a backslash and one character, concealed
characters by their number, and all others as they are.
-/

namespace Highlight.Text

/-- How one character stands in a quoted text. -/
def spell (c : Char) : Text :=
  match c with
  | '\x00' => ['\\', '0']
  | '\t' => ['\\', 't']
  | '\r' => ['\\', 'r']
  | '\n' => ['\\', 'n']
  | '\\' => ['\\', '\\']
  | '"' => ['\\', '"']
  | c =>
    if isConcealed c then ['\\', 'u', '\x7b'] ++ Nat.toDigits 16 c.toNat ++ ['\x7d'] else [c]

/-- A text between double quotes, each character spelled so that it can be read back. -/
def quoted (t : Text) : Text := '"' :: t.flatMap spell ++ ['"']

end Highlight.Text
