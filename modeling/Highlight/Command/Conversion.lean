import Highlight.Command.Failure
import Highlight.Markup.Rendering

/-!
# Conversions

A conversion makes markup of a source and tells what is wrong with the source. Several of them are
summed up in a summary, which decides whether a run failed.
-/

namespace Highlight

/-- What became of a source. -/
structure Conversion where
  html : Text
  issues : List Issue
deriving DecidableEq, Repr

/-- Scans and shows a source. The label names it in failures. -/
def Conversion.ofSource (label : String) (source : Text) (r : Rendering) :
    Except Failure Conversion :=
  match scan source with
  | .ok s => .ok ⟨r.render s, s.issues⟩
  | .error cause => .error (.scan label cause)

/-- How many sources were converted, how many failed, and how many issues there were. -/
structure Summary where
  converted : Nat := 0
  failed : Nat := 0
  issues : Nat := 0
deriving DecidableEq, Repr

namespace Summary

/-- Whether a run with this summary failed. Issues are a failure in a strict run only. -/
def isFailure (s : Summary) (strict : Bool) : Bool := 0 < s.failed || (strict && 0 < s.issues)

/-- Counts one outcome more: a failure, or a conversion with its number of issues. -/
def count (s : Summary) : Except Failure Nat → Summary
  | .ok issues => { s with converted := s.converted + 1, issues := s.issues + issues }
  | .error _ => { s with failed := s.failed + 1 }

/-- The summary of some outcomes. -/
def ofOutcomes (outcomes : List (Except Failure Nat)) : Summary := outcomes.foldl count {}

/-- A summary as it is shown after several conversions. -/
def describe (s : Summary) : Text :=
  Text.decimal s.converted ++ " converted, ".toList ++ Text.decimal s.failed ++
    " failed, ".toList ++ Text.decimal s.issues ++ " scan issues".toList

end Summary

/-- Where the conversion of one of several inputs is written to. -/
def besideInput (input : String) : String := input ++ ".html"

end Highlight
