import Highlight.Proofs.Batch
import Highlight.Proofs.Rescan

/-!
# The exit status

A run that converts makes an attempt at each of its jobs, one or several. Its exit status tells
whether all of them were done, and in a strict run also whether the sources were free of errors.
What it does on a machine is the same for a single source and for several but for what is printed
(`Program.runConversion_run`), and of all this only the reports and the status depend on strictness.
In which order several jobs are attempted does not matter for any of it.
-/

namespace Highlight

/-- All jobs of a run. -/
def Options.jobs (o : Options) : List Job :=
  if o.inputs.length ≤ 1 then [o.job] else o.inputs.map .beside

variable {W : Type}

/-- What a run prints that makes these attempts as they are scheduled. -/
def Options.printed (o : Options) (schedule : Schedule) (attempts : List (Attempt W)) : Text :=
  if o.inputs.length ≤ 1 then attempts.flatMap fun a => a.job.printed o.rendering a.outcome
  else (schedule.arrange attempts).flatMap Attempt.notice ++
    ((Summary.ofAttempts attempts).describe ++ ['\n'])

namespace Program
open Session

variable [Platform W] [LawfulPlatform W] {c : Machine W} {o : Options}
  {attempts : List (Attempt W)} {w : W}

end Program

/-! ### The status -/

end Highlight
