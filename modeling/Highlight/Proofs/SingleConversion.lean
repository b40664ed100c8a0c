import Highlight.Proofs.Runs
import Mathlib.Logic.Basic

/-!
# A single conversion is all or nothing

A run with at most one input leaves everything as it was (`Abandoned`), or it gives the markup of
its source, as it was read at first, to one place and changes nothing else (`Delivered`). Scans
never fail, so the source and the output alone decide which it is.
-/

namespace Highlight

variable {W : Type}

/-- Standard output has a text more, or the file that a path opens has it as its content. All other
files, and standard output in the second case, are as they were. -/
def Receives [Platform W] [FramedPlatform W] (before : Machine W) (output : Option String)
    (html : Text) (after : Machine W) : Prop :=
  match output with
  | none => after.stdout = before.stdout ++ html ∧ after.workspace = before.workspace
  | some path =>
    after.stdout = before.stdout ∧
      FramedPlatform.Sets before.workspace path html.encode after.workspace

/-- A run that failed, though not over a scan, and had no effect. -/
structure Abandoned (before : Machine W) (result : Except Failure Summary) (after : Machine W) :
    Prop where
  failed : ∃ failure, result = .error failure ∧ ∀ label cause, failure ≠ .scan label cause
  files : after.workspace = before.workspace
  stdout : after.stdout = before.stdout

/-- A run that converted the source it was to read, as this was before the run. -/
structure Delivered [Platform W] [FramedPlatform W] (o : Options) (before : Machine W)
    (source : Text) (result : Except Failure Summary) (after : Machine W) : Prop where
  read : Obtains before.stdin before.workspace o.job.input (.ok source)
  counted : ∃ s, scan source = .ok s ∧
    result = .ok { converted := 1, failed := 0, issues := s.issues.length }
  received : ∃ html, o.rendering.toHtml source = .ok html ∧ Receives before o.output html after

/-- What cannot be read is not what cannot be scanned. -/
lemma Failure.ofRead_ne_scan (path : String) (cause : IoFailure) (label : String)
    (delimiter : DelimiterError) : ofRead path cause ≠ .scan label delimiter := by
  unfold ofRead
  split <;> exact nofun

/-- A source that cannot be read is not scanned. -/
lemma Obtains.ne_scan [Platform W] {stdin : ByteArray} {w : W} {input : Option String}
    {failure : Failure} (reads : Obtains stdin w input (.error failure)) (label : String)
    (cause : DelimiterError) : failure ≠ .scan label cause := by
  cases reads with
  | stdinNoText _ _ => exact nofun
  | stdinFailure _ => exact nofun
  | fileNoText _ _ => exact Failure.ofRead_ne_scan _ _ _ _
  | fileFailure _ => exact Failure.ofRead_ne_scan _ _ _ _

/-- Markup that cannot be written comes from a scan. -/
lemma Writes.ne_scan [Platform W] {w w' : W} {html : Text} {output : Option String}
    {failure : Failure} (writes : Writes w html output (.error failure) w') (label : String)
    (cause : DelimiterError) : failure ≠ .scan label cause := by
  cases writes with
  | fileFailure _ => exact nofun

/-- A failure after which only warnings were written. -/
lemma abandoned_proceed (c : Machine W) (warned : Text) {failure : Failure}
    (ne_scan : ∀ label cause, failure ≠ .scan label cause) :
    Abandoned c (.error failure) (c.proceed c.workspace [] warned) :=
  ⟨⟨failure, rfl, ne_scan⟩, rfl, List.append_nil _⟩

variable [Platform W] [FramedPlatform W]

/-- A conversion after which its markup was written, and some warnings. -/
lemma delivered_proceed {o : Options} {c : Machine W} {source : Text} {s : Scan} {w : W}
    (warned : Text) (reads : Obtains c.stdin c.workspace o.job.input (.ok source))
    (scanned : scan source = .ok s)
    (writes : Writes c.workspace (o.rendering.render s) o.output (.ok ()) w) :
    Delivered o c source (.ok { converted := 1, issues := s.issues.length })
      (c.proceed w (o.job.printed o.rendering (.converted s)) warned) := by
  refine ⟨reads, ⟨s, scanned, rfl⟩, _, o.rendering.toHtml_of_scan scanned, ?_⟩
  show Receives c o.output _
    (c.proceed w (if o.output.isNone then o.rendering.render s else []) warned)
  cases output : o.output with
  | none =>
    rw [output] at writes
    cases writes with
    | stdout => exact ⟨rfl, rfl⟩
  | some path =>
    rw [output] at writes
    cases writes with
    | file ok => exact ⟨List.append_nil _, FramedPlatform.sets_of_write ok⟩

/-- A run that had no effect delivered nothing. -/
lemma Abandoned.not_delivered {o : Options} {before after : Machine W}
    {result : Except Failure Summary} (abandoned : Abandoned before result after) :
    ¬ ∃ source, Delivered o before source result after := by
  rintro ⟨source, delivered⟩
  obtain ⟨failure, error, -⟩ := abandoned.failed
  obtain ⟨s, -, ok⟩ := delivered.counted
  cases error.symm.trans ok

/-- A conversion with at most one input either fails, never over its scan, with no effect on files
and standard output, or it counts the issues of its source and gives the source's markup to its
output and to nothing else. The source is what was there to be read before the run, also where the
output is the input. The second happens whenever the source can be read as text and the output can
be written. -/
theorem convert_single_all_or_nothing {W : Type} [Platform W] [FramedPlatform W] (o : Options)
    (single : o.inputs.length ≤ 1) (before : Machine W) :
    ∃ result after,
      (Program.convert o : ExceptT Failure (SessionOn W) Summary).run.run before =
        (result, after) ∧
      Xor (Abandoned before result after) (∃ source, Delivered o before source result after) ∧
      ((∃ source, Delivered o before source result after) ↔
        o.job.Feasible before.stdin before.workspace) := by
  obtain ⟨outcome, w, ends⟩ := o.job.exists_ends o.rendering before.stdin before.workspace
  have run := Program.convert_run_single single .inTurn ends
  rw [← Job.succeeds_iff_feasible, ← ends.isConverted_iff]
  cases ends with
  | unread reads =>
    have abandoned := abandoned_proceed before (if o.strict then [] else []) reads.ne_scan
    refine ⟨_, _, run, .inl ⟨abandoned, abandoned.not_delivered⟩, ?_⟩
    exact iff_of_false abandoned.not_delivered Bool.false_ne_true
  | @unwritten source s failure w reads scanned writes =>
    obtain rfl := writes.eq_of_error
    have abandoned := abandoned_proceed before
      (if o.strict then s.tokens.flatMap (Token.report o.job.label) else []) writes.ne_scan
    refine ⟨_, _, run, .inl ⟨abandoned, abandoned.not_delivered⟩, ?_⟩
    exact iff_of_false abandoned.not_delivered Bool.false_ne_true
  | @converted source s w reads scanned writes =>
    have delivered := delivered_proceed
      (if o.strict then s.tokens.flatMap (Token.report o.job.label) else [])
      reads scanned writes
    refine ⟨_, _, run, .inr ⟨⟨source, delivered⟩, ?_⟩, ?_⟩
    · exact fun abandoned => abandoned.not_delivered ⟨source, delivered⟩
    · exact iff_of_true ⟨source, delivered⟩ rfl

/-- A file that is its own output is converted as it was. -/
theorem convert_onto_its_input :
    ∃ (o : Options) (before : Console), o.inputs = ["a.py"] ∧ o.output = some "a.py" ∧
      before.workspace.read "a.py".toList = .ok (Text.encode "'x".toList) ∧
      ∃ result after,
        (Program.convert o : ExceptT Failure Session Summary).run.run before = (result, after) ∧
        Delivered o before "'x".toList result after := by
  have content : ({ entries := [(["a.py".toList], .file (Text.encode "'x".toList))] } :
      Workspace).read "a.py".toList = .ok (Text.encode "'x".toList) := by decide
  refine ⟨{ inputs := ["a.py"], output := some "a.py" }, { workspace := _ }, rfl, rfl, content, ?_⟩
  obtain ⟨names, opens, entry⟩ := Workspace.read_eq_ok.1 content
  have accepts : Workspace.Accepts _ "a.py".toList := ⟨names, opens, by rw [entry]; exact nofun⟩
  obtain ⟨result, after, run, -, delivered_iff⟩ := convert_single_all_or_nothing
    { inputs := ["a.py"], output := some "a.py" } (by decide) ({ workspace := _ } : Console)
  have reads : Obtains .empty _ (some "a.py") (.ok "'x".toList) :=
    .file (Workspace.platform_read_eq_ok.2 content)
  have feasible : Job.Feasible .empty _ ⟨some "a.py", some "a.py"⟩ :=
    ⟨⟨_, reads⟩, by rintro _ ⟨⟩; exact accepts⟩
  obtain ⟨source, delivered⟩ := delivered_iff.2 feasible
  obtain rfl : source = "'x".toList := Except.ok.inj (delivered.read.unique reads)
  exact ⟨result, after, run, delivered⟩

end Highlight
