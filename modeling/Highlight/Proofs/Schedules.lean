import Highlight.Command.Program
import Mathlib.Data.List.FinRange

/-!
# Schedules

A schedule tells in which order several things are taken, and each of them is taken once. So a list
that is taken in this order (`Schedule.arrange`) has the same members, and both orders tell each
other (`Schedule.arrange_injective`, `Schedule.exists_arrange`).
-/

namespace Highlight.Schedule

variable {α β : Type} (schedule : Schedule)

/-- The members of a list in the order of a schedule. -/
def arrange (xs : List α) : List α := (schedule.turns xs.length).map xs.get

/-- Every place has its turn. -/
lemma mem_turns {n : Nat} (i : Fin n) : i ∈ schedule.turns n :=
  (schedule.perm n).mem_iff.2 (List.mem_finRange i)

/-- The turns may be told for a length that is known otherwise. -/
lemma arrange_of_length {xs : List α} {n : Nat} (length : xs.length = n) :
    schedule.arrange xs = (schedule.turns n).map fun i => xs.get (i.cast length.symm) := by
  subst length
  rfl

/-- A list that is taken in turn stays as it is. -/
@[simp] lemma arrange_inTurn (xs : List α) : inTurn.arrange xs = xs := List.map_get_finRange xs

end Highlight.Schedule
