import Highlight.Markup.Document
import Highlight.Markup.Fragment
import Highlight.Markup.Numbering

/-!
# Renderings

A rendering says how a scan is shown: with or without a column of line numbers, alone or as a full
document.
-/

namespace Highlight

/-- How a scan is shown. -/
structure Rendering where
  /-- Whether a column of line numbers stands beside the code. -/
  lineNumbers : Bool := false
  /-- Whether a full document stands around the code. -/
  standalone : Bool := false
  /-- The title of the document. -/
  title : Option String := none
deriving DecidableEq, Repr

namespace Rendering

/-- The container of a scan, written piece by piece. -/
def contain (r : Rendering) (s : Scan) : Text :=
  let sheet : Sheet := {}
  if r.lineNumbers then
    let sheet := sheet.put
      "<pre class='python'><table><tbody style='vertical-align:top;'><tr><td>".toList
    let sheet := sheet.put "<div class='codeLN'>".toList
    let sheet := sheet.put (numberColumn (lineCount s.source))
    let sheet := sheet.put "</div></td><td><div class='codeText'>".toList
    let sheet := sheet.putScan s
    (sheet.put "</div></td></tr></tbody></table></pre>".toList).html
  else
    let sheet := sheet.put "<pre class='python'><div class='codeText'>".toList
    let sheet := sheet.putScan s
    (sheet.put "</div></pre>".toList).html

/-- A scan, shown. -/
def render (r : Rendering) (s : Scan) : Text :=
  if r.standalone then document r.title (r.contain s) else r.contain s

/-- A source, scanned and shown. -/
def toHtml (r : Rendering) (source : Text) : Except DelimiterError Text :=
  match scan source with
  | .ok s => .ok (r.render s)
  | .error e => .error e

end Rendering

end Highlight
