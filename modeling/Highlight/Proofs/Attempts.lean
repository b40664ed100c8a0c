import Highlight.Command.Program
import Highlight.Proofs.ErrorMarks
import Highlight.Proofs.Files

/-!
# Attempts at a conversion

A run makes one attempt at each of its jobs. An attempt ends in one of three ways (`Job.Ends`): the
source is not read, or the markup is not written, or the source is converted. Which one it is
depends on the files and on standard input only, and it is the last one if the job can be done
(`Job.Ends.isConverted_iff`).

What a strict run reports of a source is said token by token (`Token.report`). Where a file is
written as a whole or not at all, the job alone tells whether it can be done (`Job.Feasible`), and an
attempt that fails changes nothing.
-/

namespace Highlight

/-! ### Jobs and outcomes -/

/-- A conversion to be made: where the source comes from and where the markup goes to. No name
stands for standard input and standard output. -/
structure Job where
  input : Option String
  output : Option String
deriving DecidableEq, Repr

/-- The name of a job's source in messages. -/
def Job.label (job : Job) : String := job.input.getD stdinLabel

/-- The job of converting one of several inputs. -/
def Job.beside (input : String) : Job := ⟨some input, some (besideInput input)⟩

/-- The job of a run with at most one input. -/
def Options.job (o : Options) : Job := ⟨if o.readsStdin then none else o.inputs.head?, o.output⟩

/-- A line that tells of a stretch of a source, as in `a.py: unterminated docstring at 3..7`. -/
def reportLine (label words : String) (span : Span) : Text :=
  (label ++ ": " ++ words ++ " at " ++ toString span.start ++ ".." ++ toString span.stop ++
    "\n").toList

/-- What a strict run says of a token: a line if it is an error, and nothing otherwise. -/
def Token.report (label : String) (t : Token) : Text :=
  match t.kind with
  | .unterminatedString => reportLine label "unterminated string literal" t.span
  | .unterminatedDocstring => reportLine label "unterminated docstring" t.span
  | .stalled => reportLine label "unrecognized character" t.span
  | _ => []

/-- What became of a job. -/
inductive Outcome where
  /-- The source could not be read. -/
  | unread (failure : Failure)
  /-- The source was read, but the markup could not be written. -/
  | unwritten (scan : Scan) (failure : Failure)
  /-- The source was read and the markup written. -/
  | converted (scan : Scan)
deriving DecidableEq, Repr

namespace Outcome

/-- The scan of the source, if it was read. -/
def scan? : Outcome → Option Scan
  | unread _ => none
  | unwritten s _ | converted s => some s

/-- The scan of the source, if it was converted. -/
def converted? : Outcome → Option Scan
  | unread _ | unwritten _ _ => none
  | converted s => some s

/-- Whether the source was converted. -/
def isConverted (o : Outcome) : Bool := o.converted?.isSome

/-- The number of issues of the source, if it was converted. -/
def issues (o : Outcome) : Nat := o.converted?.elim 0 (·.issues.length)

/-- The failure, or the number of issues. -/
def result : Outcome → Except Failure Nat
  | unread failure | unwritten _ failure => .error failure
  | converted s => .ok s.issues.length

/-- The lines that a strict run reports the errors of a source with. -/
def reports (label : String) (o : Outcome) : Text :=
  o.scan?.elim [] fun s => s.tokens.flatMap (Token.report label)

/-- The line that tells why the source was not converted. -/
def errors (o : Outcome) : Text :=
  match o.result with
  | .ok _ => []
  | .error failure => "error: ".toList ++ failure.message.toList ++ ['\n']

/-- The line that announces what was written for one of several inputs. -/
def notice (input : String) : Outcome → Text
  | unread _ | unwritten _ _ => []
  | converted _ => "Wrote: ".toList ++ (besideInput input).toList ++ ['\n']

end Outcome

/-! ### Reports -/

/-- An issue is reported with its words and where it stands. -/
lemma Program.issueLine_eq (label : String) (issue : Issue) :
    issueLine label issue = reportLine label issue.problem.message issue.span := by
  simp [issueLine, reportLine, Issue.describe, Span.describe, Text.decimal]

/-- A token is reported if it has an issue. -/
lemma Token.report_eq (label : String) (t : Token) :
    t.report label = t.issue?.elim [] (Program.issueLine label) := by
  obtain ⟨kind, span⟩ := t
  cases kind with
  | unterminatedString => exact (Program.issueLine_eq label ⟨.unterminatedString, span⟩).symm
  | unterminatedDocstring => exact (Program.issueLine_eq label ⟨.unterminatedDocstring, span⟩).symm
  | stalled => exact (Program.issueLine_eq label ⟨.stalledProgress, span⟩).symm
  | _ => rfl

/-- To report the issues of a scan is to report its tokens. -/
lemma Scan.flatMap_issueLine (label : String) (s : Scan) :
    s.issues.flatMap (Program.issueLine label) = s.tokens.flatMap (Token.report label) := by
  rw [issues_eq]
  induction s.tokens with
  | nil => rfl
  | cons t tokens ih =>
    rw [List.flatMap_cons, Token.report_eq, ← ih]
    cases issue : t.issue? with
    | none => rw [List.filterMap_cons_none issue, Option.elim_none, List.nil_append]
    | some i => rw [List.filterMap_cons_some issue, List.flatMap_cons, Option.elim_some]

/-! ### Jobs and files -/

section Files

variable {W : Type} [Platform W]

/-- What there is to be read for a job, or why there is nothing. -/
inductive Obtains (stdin : ByteArray) (w : W) : Option String → Except Failure Text → Prop where
  | stdin {source} :
    Platform.stdinFailure? w = none →
    stdin = source.encode →
    Obtains stdin w none (.ok source)
  | stdinNoText :
    Platform.stdinFailure? w = none →
    (∀ source : Text, stdin ≠ source.encode) →
    Obtains stdin w none (.error (.stdin .notText))
  | stdinFailure {cause} :
    Platform.stdinFailure? w = some cause →
    Obtains stdin w none (.error (.stdin cause))
  | file {path source} :
    Platform.read w path = .ok source.encode →
    Obtains stdin w (some path) (.ok source)
  | fileNoText {path content} :
    Platform.read w path = .ok content →
    (∀ source : Text, content ≠ source.encode) →
    Obtains stdin w (some path) (.error (.ofRead path .notText))
  | fileFailure {path cause} :
    Platform.read w path = .error cause →
    Obtains stdin w (some path) (.error (.ofRead path cause))

/-- Whether markup is written, and what is then left of the files. Standard output takes it
always. -/
inductive Writes (w : W) (html : Text) : Option String → Except Failure Unit → W → Prop where
  | stdout :
    Writes w html none (.ok ()) w
  | file {path w'} :
    Platform.write w path html.encode = (.ok (), w') →
    Writes w html (some path) (.ok ()) w'
  | fileFailure {path cause w'} :
    Platform.write w path html.encode = (.error cause, w') →
    Writes w html (some path) (.error (.write path cause)) w'

/-- An attempt at a job, with its outcome and what it makes of the files. -/
inductive Job.Ends (r : Rendering) (stdin : ByteArray) (job : Job) (w : W) :
    Outcome → W → Prop where
  | unread {failure} :
    Obtains stdin w job.input (.error failure) →
    Ends r stdin job w (.unread failure) w
  | unwritten {source s failure w'} :
    Obtains stdin w job.input (.ok source) →
    scan source = .ok s →
    Writes w (r.render s) job.output (.error failure) w' →
    Ends r stdin job w (.unwritten s failure) w'
  | converted {source s w'} :
    Obtains stdin w job.input (.ok source) →
    scan source = .ok s →
    Writes w (r.render s) job.output (.ok ()) w' →
    Ends r stdin job w (.converted s) w'

/-- The source of a job can be read as text, and its markup can be written. -/
def Job.Succeeds (r : Rendering) (stdin : ByteArray) (w : W) (job : Job) : Prop :=
  ∃ source html w', Obtains stdin w job.input (.ok source) ∧ r.toHtml source = .ok html ∧
    Writes w html job.output (.ok ()) w'

/-- The markup of a source shows its scan. -/
lemma Rendering.toHtml_of_scan (r : Rendering) {source : Text} {s : Scan}
    (scanned : scan source = .ok s) : r.toHtml source = .ok (r.render s) := by
  rw [toHtml, scanned]

/-- Something can be read, or there is a reason why not. -/
lemma exists_reads (stdin : ByteArray) (w : W) (input : Option String) :
    ∃ result, Obtains stdin w input result := by
  cases input with
  | none =>
    cases failure : Platform.stdinFailure? w with
    | some cause => exact ⟨_, .stdinFailure failure⟩
    | none =>
      cases text : Text.decode? stdin with
      | none => exact ⟨_, .stdinNoText failure (Text.decode?_eq_none.1 text)⟩
      | some source => exact ⟨_, .stdin failure (Text.decode?_eq_some.1 text)⟩
  | some path =>
    cases read : Platform.read w path with
    | error cause => exact ⟨_, .fileFailure read⟩
    | ok content =>
      cases text : Text.decode? content with
      | none => exact ⟨_, .fileNoText read (Text.decode?_eq_none.1 text)⟩
      | some source =>
        rw [Text.decode?_eq_some.1 text] at read
        exact ⟨_, .file read⟩

/-- Markup is written, or there is a reason why not. -/
lemma exists_writes (w : W) (html : Text) (output : Option String) :
    ∃ result w', Writes w html output result w' := by
  cases output with
  | none => exact ⟨_, _, .stdout⟩
  | some path =>
    match written : Platform.write w path html.encode with
    | (.error cause, w') => exact ⟨_, _, .fileFailure written⟩
    | (.ok (), w') => exact ⟨_, _, .file written⟩

/-- Only one thing can be read for a job. -/
lemma Obtains.unique {stdin : ByteArray} {w : W} {input : Option String}
    {result result' : Except Failure Text} (reads : Obtains stdin w input result)
    (reads' : Obtains stdin w input result') : result = result' := by
  cases reads with
  | stdin works text =>
    cases reads' with
    | stdin _ text' => rw [Text.encode_injective (text.symm.trans text')]
    | stdinNoText _ noText => exact absurd text (noText _)
    | stdinFailure failure => cases works.symm.trans failure
  | stdinNoText works noText =>
    cases reads' with
    | stdin _ text => exact absurd text (noText _)
    | stdinNoText _ _ => rfl
    | stdinFailure failure => cases works.symm.trans failure
  | stdinFailure failure =>
    cases reads' with
    | stdin works _ => cases works.symm.trans failure
    | stdinNoText works _ => cases works.symm.trans failure
    | stdinFailure failure' => rw [Option.some.inj (failure.symm.trans failure')]
  | file read =>
    cases reads' with
    | file read' => rw [Text.encode_injective (Except.ok.inj (read.symm.trans read'))]
    | fileNoText read' noText => exact absurd (Except.ok.inj (read'.symm.trans read)) (noText _)
    | fileFailure error => cases read.symm.trans error
  | fileNoText read noText =>
    cases reads' with
    | file read' => exact absurd (Except.ok.inj (read.symm.trans read')) (noText _)
    | fileNoText _ _ => rfl
    | fileFailure error => cases read.symm.trans error
  | fileFailure error =>
    cases reads' with
    | file read => cases error.symm.trans read
    | fileNoText read _ => cases error.symm.trans read
    | fileFailure error' => rw [Except.error.inj (error.symm.trans error')]

/-- Markup is written in one way only. -/
lemma Writes.unique {w w₁ w₂ : W} {html : Text} {output : Option String}
    {result result' : Except Failure Unit} (writes : Writes w html output result w₁)
    (writes' : Writes w html output result' w₂) : result = result' ∧ w₁ = w₂ := by
  cases writes with
  | stdout =>
    cases writes' with
    | stdout => exact ⟨rfl, rfl⟩
  | file ok =>
    cases writes' with
    | file ok' => exact ⟨rfl, (Prod.mk.inj (ok.symm.trans ok')).2⟩
    | fileFailure error => cases ok.symm.trans error
  | fileFailure error =>
    cases writes' with
    | file ok => cases error.symm.trans ok
    | fileFailure error' =>
      cases error.symm.trans error'
      exact ⟨rfl, rfl⟩

/-- A source is converted if it can be. -/
lemma Job.Ends.isConverted_iff {r : Rendering} {stdin : ByteArray} {job : Job} {w w' : W}
    {outcome : Outcome} (ends : job.Ends r stdin w outcome w') :
    outcome.isConverted ↔ job.Succeeds r stdin w := by
  cases ends with
  | unread reads =>
    refine iff_of_false Bool.false_ne_true ?_
    rintro ⟨_, _, _, reads', -, -⟩
    cases reads.unique reads'
  | unwritten reads scanned writes =>
    refine iff_of_false Bool.false_ne_true ?_
    rintro ⟨_, _, _, reads', shown, writes'⟩
    cases reads.unique reads'
    cases (r.toHtml_of_scan scanned).symm.trans shown
    cases (writes.unique writes').1
  | converted reads scanned writes =>
    exact iff_of_true rfl ⟨_, _, _, reads, r.toHtml_of_scan scanned, writes⟩

/-- An attempt at a job ends in some way. -/
lemma Job.exists_ends (r : Rendering) (stdin : ByteArray) (job : Job) (w : W) :
    ∃ outcome w', job.Ends r stdin w outcome w' := by
  obtain ⟨read, reads⟩ := exists_reads stdin w job.input
  cases read with
  | error failure => exact ⟨_, _, .unread reads⟩
  | ok source =>
    obtain ⟨lexemes, -, scanned⟩ := Cursor.scan_runs source
    obtain ⟨written, w', writes⟩ := exists_writes w (r.render ⟨source, lexemes⟩) job.output
    cases written with
    | error failure => exact ⟨_, _, .unwritten reads scanned writes⟩
    | ok _ => exact ⟨_, _, .converted reads scanned writes⟩

end Files

/-- What an attempt at a job prints if nothing is announced: the markup, unless it goes to a
file. -/
def Job.printed (r : Rendering) (job : Job) (outcome : Outcome) : Text :=
  outcome.converted?.elim [] fun s => if job.output.isNone then r.render s else []

/-! ### Jobs on a framed platform -/

section Framed

variable {W : Type} [Platform W] [FramedPlatform W]

/-- The source of a job can be read as text, and a file can be written at its output. -/
def Job.Feasible (stdin : ByteArray) (w : W) (job : Job) : Prop :=
  (∃ source, Obtains stdin w job.input (.ok source)) ∧
    ∀ path ∈ job.output, FramedPlatform.Accepts w path

/-- Whether markup can be written does not depend on the markup. -/
lemma exists_writes_iff {w : W} {html : Text} {output : Option String} :
    (∃ w', Writes w html output (.ok ()) w') ↔
      ∀ path ∈ output, FramedPlatform.Accepts w path := by
  cases output with
  | none => exact iff_of_true ⟨w, .stdout⟩ nofun
  | some path =>
    have accepts_iff : (∃ w', Platform.write w path html.encode = (.ok (), w')) ↔
        FramedPlatform.Accepts w path := FramedPlatform.exists_write_iff html.encode
    constructor
    · rintro ⟨w', writes⟩ _ ⟨⟩
      cases writes with
      | file ok => exact accepts_iff.1 ⟨w', ok⟩
    · intro accepts
      obtain ⟨w', ok⟩ := accepts_iff.2 (accepts path rfl)
      exact ⟨w', .file ok⟩

/-- A job that is feasible succeeds. -/
lemma Job.succeeds_iff_feasible {r : Rendering} {stdin : ByteArray} {w : W} {job : Job} :
    job.Succeeds r stdin w ↔ job.Feasible stdin w := by
  constructor
  · rintro ⟨source, html, w', reads, -, writes⟩
    exact ⟨⟨source, reads⟩, exists_writes_iff.1 ⟨w', writes⟩⟩
  · rintro ⟨⟨source, reads⟩, accepts⟩
    obtain ⟨lexemes, -, scanned⟩ := Cursor.scan_runs source
    obtain ⟨w', writes⟩ := exists_writes_iff.2 accepts
    exact ⟨source, _, w', reads, r.toHtml_of_scan scanned, writes⟩

/-- Markup that cannot be written leaves the files as they were. -/
lemma Writes.eq_of_error {w w' : W} {html : Text} {output : Option String} {failure : Failure}
    (writes : Writes w html output (.error failure) w') : w' = w := by
  cases writes with
  | fileFailure error => exact FramedPlatform.eq_of_write_error error

/-- An attempt that does not convert its source leaves the files as they were. -/
lemma Job.Ends.eq_of_not_isConverted {r : Rendering} {stdin : ByteArray} {job : Job} {w w' : W}
    {outcome : Outcome} (ends : job.Ends r stdin w outcome w')
    (failed : outcome.isConverted = false) : w' = w := by
  cases ends with
  | unread _ => rfl
  | unwritten _ _ writes => exact writes.eq_of_error
  | converted _ _ _ => cases failed

end Framed

end Highlight
