import Highlight.Text.Basic

/-!
# Line numbers

A source has one line more than it has newlines: the last line counts even if it is empty. The
column of line numbers has one row for each.
-/

namespace Highlight

/-- The number of lines of a text. -/
def lineCount (t : Text) : Nat := t.count '\n' + 1

/-- The row of a line number. -/
def numberRow (n : Nat) : Text := "<div>".toList ++ Text.decimal n ++ "</div>".toList

/-- The column of the line numbers from 1 to `count`. -/
def numberColumn (count : Nat) : Text := (List.range' 1 count).flatMap numberRow

end Highlight
