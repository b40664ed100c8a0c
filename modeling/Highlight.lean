import Highlight.Lexis.Profile
import Highlight.Main
import Highlight.Proofs.Boundary
import Highlight.Proofs.Occurrence
import Highlight.Proofs.Tiling
import Highlight.Proofs.Grammar
import Highlight.Proofs.Parsing
import Highlight.Proofs.Escaping
import Highlight.Proofs.Segments
import Highlight.Proofs.Content
import Highlight.Proofs.Nesting
import Highlight.Proofs.Lookahead
import Highlight.Proofs.Rescan
import Highlight.Proofs.Seam
import Highlight.Proofs.ErrorMarks
import Highlight.Proofs.Listing
import Highlight.Proofs.Arguments
import Highlight.Proofs.SingleConversion
import Highlight.Proofs.ExitStatus
import Highlight.Proofs.Interference
import Highlight.Proofs.Readings
import Highlight.Proofs.QuotedForms
import Highlight.Proofs.Lines
import Highlight.Proofs.Entities
import Highlight.Proofs.Classification
import Highlight.Proofs.RangeSearch
import Highlight.Proofs.PlainForms
import Highlight.Proofs.Progress
