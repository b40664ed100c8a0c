import Highlight.Markup.Entity

/-!
# Documents

A document is a full page around a piece of markup, with a title and a style sheet for all classes
that mark a kind.
-/

namespace Highlight

/-- The style sheet of a document. -/
def styleSheet : String :=
  "pre.python \x7b background: #1e1f22; color: #d4d4d4; padding: 0.75em 1em; " ++
  "border-radius: 4px; font-family: Menlo, Consolas, monospace; line-height: 1.4; \x7d\n" ++
  "pre.python table \x7b border-collapse: collapse; \x7d\n" ++
  "pre.python .codeLN \x7b color: #6e7681; text-align: right; padding-right: 1em; " ++
  "border-right: 1px solid #3c3f41; margin-right: 1em; user-select: none; \x7d\n" ++
  "pre.python .codeText \x7b white-space: pre; \x7d\n" ++
  ".codeDocstr \x7b color: #6a9955; font-style: italic; \x7d\n" ++
  ".codeStr \x7b color: #ce9178; \x7d\n" ++
  ".codeNum \x7b color: #b5cea8; \x7d\n" ++
  ".codeWord \x7b color: #9cdcfe; \x7d\n" ++
  ".codeDefCnst \x7b color: #569cd6; font-weight: bold; \x7d\n" ++
  ".codeBuiltIn \x7b color: #dcdcaa; \x7d\n" ++
  ".codeKey \x7b color: #c586c0; font-weight: bold; \x7d\n" ++
  ".codeComm \x7b color: #6a737d; font-style: italic; \x7d\n" ++
  ".codeErr \x7b text-decoration: underline wavy #f14c4c; \x7d\n"

/-- The title of a document that was given none. -/
def defaultTitle : String := "Python source"

/-- What stands before the title of a document. -/
def documentHead : String :=
  "<!DOCTYPE html>\n<html>\n<head>\n<meta charset=\"utf-8\">\n<title>"

/-- A full page around a piece of markup. The title is escaped, the markup is not. -/
def document (title : Option String) (fragment : Text) : Text :=
  documentHead.toList ++ escaped (title.getD defaultTitle).toList ++
    "</title>\n<style>\n".toList ++ styleSheet.toList ++ "</style>\n</head>\n<body>\n".toList ++
    fragment ++ "\n</body>\n</html>\n".toList

end Highlight
