import Highlight.Lexis.Kind
import Highlight.Text.Basic
import Highlight.Text.Bisect

/-!
# The vocabulary of Python

Some words have a meaning of their own: the defined constants, the keywords, and the names of
built-in functions and types. The three tables are disjoint and sorted by code points. Every entry
has 2 to 12 bytes and begins with an ASCII letter or an underscore, so most words are settled
without a search.
-/

namespace Highlight

/-- The defined constants. -/
def constants : Array String := #["False", "None", "True"]

/-- The keywords. `print` is not one of them. -/
def keywords : Array String :=
  #["and", "as", "assert", "async", "await", "break", "class", "continue", "def", "del", "elif",
    "else", "except", "finally", "for", "from", "global", "if", "import", "in", "is", "lambda",
    "nonlocal", "not", "or", "pass", "raise", "return", "try", "while", "with", "yield"]

/-- The names of built-in functions and types. -/
def builtins : Array String :=
  #["__import__", "abs", "all", "any", "ascii", "bin", "bool", "breakpoint", "bytearray", "bytes",
    "callable", "chr", "classmethod", "compile", "complex", "delattr", "dict", "dir", "divmod",
    "enumerate", "eval", "exec", "filter", "float", "format", "frozenset", "getattr", "globals",
    "hasattr", "hash", "help", "hex", "id", "input", "int", "isinstance", "issubclass", "iter",
    "len", "list", "locals", "map", "max", "memoryview", "min", "next", "object", "oct", "open",
    "ord", "pow", "print", "property", "range", "repr", "reversed", "round", "set", "setattr",
    "slice", "sorted", "staticmethod", "str", "sum", "super", "tuple", "type", "vars", "zip"]

/-- Whether a sorted table has `word` as an entry. -/
def hasWord (table : Array String) (word : Text) : Bool :=
  bisect (fun entry => compare entry.toList word) table 0 table.size

/-- Whether a word has the length and the first character of a word in the tables. -/
def mayBeReserved (word : Text) : Bool :=
  2 ≤ word.size && word.size ≤ 12 &&
    match word with
    | [] => false
    | c :: _ => c.isAlpha || c == '_'

/-- The kind of a word that has a meaning of its own. -/
def reserved? (word : Text) : Option Kind :=
  if !mayBeReserved word then none
  else if hasWord constants word then some .constant
  else if hasWord keywords word then some .keyword
  else if hasWord builtins word then some .builtin
  else none

/-- The kind of a word, wherever it stands. -/
def classify (word : Text) : Kind := (reserved? word).getD .ident

end Highlight
