/-!
# Search in a sorted table

`bisect` looks for an entry by halving the stretch of the table that can hold it. The comparison
says on which side of an entry the sought thing lies, so the same search serves words and ranges.
-/

namespace Highlight

/-- Whether an entry of `table` at a position from `lo` up to, and not at, `hi` is the sought one,
where `side` tells for an entry whether it lies before, at, or behind what is sought. -/
def bisect {α : Type} (side : α → Ordering) (table : Array α) (lo hi : Nat) : Bool :=
  if lo < hi then
    let mid := lo + (hi - lo) / 2
    match table[mid]? with
    | none => false
    | some entry =>
      match side entry with
      | .lt => bisect side table (mid + 1) hi
      | .eq => true
      | .gt => bisect side table lo mid
  else false
termination_by hi - lo

end Highlight
