import Highlight.Proofs.Attempts

/-!
# Runs on a machine

What the program does on a machine is what the attempts at its jobs say: `Program.convert_run_single`
for a single source, `Program.convertBeside_run` for one of several. Each lemma takes one part of the
program from a machine to another one that has other files and more text in its outputs
(`Machine.proceed`), and the parts are put together by `Session.run_bind` and its likes.
-/

namespace Highlight

/-! ### Steps -/

/-- A machine with other files, and more text in its outputs. -/
def Machine.proceed {W : Type} (c : Machine W) (w : W) (printed warned : Text) : Machine W :=
  { c with workspace := w, stdout := c.stdout ++ printed, stderr := c.stderr ++ warned }

/-- Two steps are one. -/
lemma Machine.proceed_proceed {W : Type} (c : Machine W) (w w' : W)
    (printed printed' warned warned' : Text) :
    (c.proceed w printed warned).proceed w' printed' warned' =
      c.proceed w' (printed ++ printed') (warned ++ warned') := by
  simp only [proceed, List.append_assoc]

/-- A step that does nothing. -/
lemma Machine.proceed_self {W : Type} (c : Machine W) : c.proceed c.workspace [] [] = c := by
  simp only [proceed, List.append_nil]

namespace Session

variable {ε σ α β : Type} {s s' : σ}

/-- What is done behind a step goes on where it ended. -/
lemma run_bind {x : StateM σ α} {f : α → StateM σ β} {a : α} (h : x.run s = (a, s')) :
    (x >>= f).run s = (f a).run s' := by
  rw [StateT.run_bind, h]
  rfl

/-- What is done behind a success goes on where it ended. -/
lemma run_bind_ok {x : ExceptT ε (StateM σ) α} {f : α → ExceptT ε (StateM σ) β} {a : α}
    (h : x.run.run s = (.ok a, s')) : (x >>= f).run.run s = (f a).run.run s' := by
  rw [ExceptT.run_bind, StateT.run_bind, h]
  rfl

/-- Nothing is done behind a failure. -/
lemma run_bind_error {x : ExceptT ε (StateM σ) α} {f : α → ExceptT ε (StateM σ) β} {e : ε}
    (h : x.run.run s = (.error e, s')) : (x >>= f).run.run s = (.error e, s') := by
  rw [ExceptT.run_bind, StateT.run_bind, h]
  rfl

/-- A step that cannot fail succeeds. -/
lemma run_lift {x : StateM σ α} {a : α} (h : x.run s = (a, s')) :
    (liftM x : ExceptT ε (StateM σ) α).run.run s = (.ok a, s') := by
  show (x.run s >>= fun p => pure (Except.ok p.1, p.2)) = _
  rw [h]
  rfl

end Session

namespace Program
open Session

variable {W : Type} [Platform W] {c : Machine W}

/-- A file is read as the platform says. -/
lemma readBytes_run (path : String) :
    (Host.readBytes path : SessionOn W _).run c = (Platform.read c.workspace path, c) := rfl

/-- A file is read as text. -/
lemma readFile_run {path : String} {result : Except Failure Text}
    (reads : Obtains c.stdin c.workspace (some path) result) :
    (readFile path : ExceptT Failure (SessionOn W) Text).run.run c = (result, c) := by
  unfold readFile
  rw [run_bind_ok (run_lift (readBytes_run path))]
  cases reads with
  | file read =>
    rw [read]
    dsimp only
    rw [Text.decode?_eq_some.2 rfl]
    rfl
  | fileNoText read noText =>
    rw [read]
    dsimp only
    rw [Text.decode?_eq_none.2 noText]
    rfl
  | fileFailure error =>
    rw [error]
    rfl

/-- Standard input is read as text. -/
lemma readInput_run {result : Except Failure Text}
    (reads : Obtains c.stdin c.workspace none result) :
    (readInput : ExceptT Failure (SessionOn W) Text).run.run c = (result, c) := by
  have works (ok : Platform.stdinFailure? c.workspace = none) :
      (Host.readStdin : SessionOn W _).run c = (.ok c.stdin, c) := by
    show Machine.readStdin c = _
    rw [Machine.readStdin, ok]
  unfold readInput
  cases reads with
  | stdin ok text =>
    rw [run_bind_ok (run_lift (works ok))]
    dsimp only
    rw [Text.decode?_eq_some.2 text]
    rfl
  | stdinNoText ok noText =>
    rw [run_bind_ok (run_lift (works ok))]
    dsimp only
    rw [Text.decode?_eq_none.2 noText]
    rfl
  | @stdinFailure cause failure =>
    have fails : (Host.readStdin : SessionOn W _).run c = (.error cause, c) := by
      show Machine.readStdin c = _
      rw [Machine.readStdin, failure]
    rw [run_bind_ok (run_lift fails)]
    rfl

/-- A file is written as the platform says. -/
lemma writeText_run {path : String} {html : Text} {result : Except IoFailure Unit} {w : W}
    (written : Platform.write c.workspace path html.encode = (result, w)) :
    (Host.writeText path html : SessionOn W _).run c = (result, c.proceed w [] []) := by
  show Machine.writeText path html c = _
  rw [Machine.writeText, written]
  simp only [Machine.proceed, List.append_nil]

/-- Markup is written to a file, or the failure is told. -/
lemma writeFile_run {path : String} {html : Text} {result : Except Failure Unit} {w : W}
    (writes : Writes c.workspace html (some path) result w) :
    (writeFile path html : ExceptT Failure (SessionOn W) Unit).run.run c =
      (result, c.proceed w [] []) := by
  unfold writeFile
  cases writes with
  | file ok =>
    rw [run_bind_ok (run_lift (writeText_run ok))]
    rfl
  | fileFailure error =>
    rw [run_bind_ok (run_lift (writeText_run error))]
    rfl

/-- A warning is put behind those before it. -/
lemma warn_run (text : Text) :
    (Host.warn text : SessionOn W _).run c = ((), c.proceed c.workspace [] text) := by
  show ((), _) = _
  simp only [Machine.proceed, List.append_nil]

/-- All issues are warned of. -/
lemma forM_warn_run (label : String) (issues : List Issue) :
    (issues.forM fun issue => liftM (Host.warn (issueLine label issue) : SessionOn W Unit) :
      ExceptT Failure (SessionOn W) PUnit).run.run c =
        (.ok (), c.proceed c.workspace [] (issues.flatMap (issueLine label))) := by
  induction issues generalizing c with
  | nil =>
    rw [List.flatMap_nil, Machine.proceed_self]
    rfl
  | cons issue issues ih =>
    show (liftM (Host.warn (issueLine label issue) : SessionOn W Unit) >>= fun _ => issues.forM _ :
      ExceptT Failure (SessionOn W) PUnit).run.run c = _
    rw [run_bind_ok (run_lift (warn_run _)), ih, Machine.proceed_proceed]
    rfl

/-- A source is scanned and shown, and in a strict run its errors are reported. -/
lemma convertSource_run (o : Options) (label : String) {source : Text} {s : Scan}
    (scanned : scan source = .ok s) :
    (convertSource o label source : ExceptT Failure (SessionOn W) Conversion).run.run c =
      (.ok ⟨o.rendering.render s, s.issues⟩,
        c.proceed c.workspace []
          (if o.strict then s.tokens.flatMap (Token.report label) else [])) := by
  have shown : (ExceptT.mk (pure (Conversion.ofSource label source o.rendering)) :
      ExceptT Failure (SessionOn W) Conversion).run.run c =
        (.ok ⟨o.rendering.render s, s.issues⟩, c) := by
    rw [Conversion.ofSource, scanned]
    rfl
  unfold convertSource
  rw [run_bind_ok shown]
  cases strict : o.strict with
  | true =>
    rw [if_pos rfl, if_pos rfl, run_bind_ok (forM_warn_run label s.issues), s.flatMap_issueLine]
    rfl
  | false =>
    rw [if_neg Bool.false_ne_true, if_neg Bool.false_ne_true, Machine.proceed_self]
    rfl

section Output

variable [LawfulPlatform W]

/-- What is printed is put behind what was printed before. -/
lemma print_run (text : Text) :
    (Host.print text : SessionOn W _).run c = (.ok (), c.proceed c.workspace text []) := by
  show Machine.print text c = _
  rw [Machine.print, LawfulPlatform.print_eq]
  simp only [Machine.proceed, List.append_nil]

/-- Markup is printed. -/
lemma writeOutput_run (html : Text) :
    (writeOutput html : ExceptT Failure (SessionOn W) Unit).run.run c =
      (.ok (), c.proceed c.workspace html []) := by
  unfold writeOutput
  rw [run_bind_ok (run_lift (print_run html))]
  rfl

/-- A line is printed. -/
lemma printLine_run (line : Text) :
    (printLine line : SessionOn W Unit).run c =
      ((), c.proceed c.workspace (line ++ ['\n']) []) := by
  unfold printLine
  rw [run_bind (print_run _)]
  rfl

end Output

/-! ### Runs of attempts -/

/-- Reads the source of a job. -/
def readSource {m : Type → Type} [Monad m] [Host m] (job : Job) : ExceptT Failure m Text :=
  match job.input with
  | none => readInput
  | some path => readFile path

/-- The source of a job is read as text. -/
lemma readSource_run {job : Job} {result : Except Failure Text}
    (reads : Obtains c.stdin c.workspace job.input result) :
    (readSource job : ExceptT Failure (SessionOn W) Text).run.run c = (result, c) := by
  unfold readSource
  cases input : job.input with
  | none => exact readInput_run (input ▸ reads)
  | some path => exact readFile_run (input ▸ reads)

/-- The markup of a source that is converted alone is not written. -/
lemma convertOne_run_error (o : Options) (label : String) {source : Text} {s : Scan}
    {failure : Failure} {w : W} (scanned : scan source = .ok s)
    (writes : Writes c.workspace (o.rendering.render s) o.output (.error failure) w) :
    (convertOne o label source : ExceptT Failure (SessionOn W) Summary).run.run c =
      (.error failure,
        c.proceed w [] (if o.strict then s.tokens.flatMap (Token.report label) else [])) := by
  unfold convertOne
  rw [run_bind_ok (convertSource_run o label scanned)]
  cases output : o.output with
  | none =>
    rw [output] at writes
    cases writes
  | some path =>
    rw [output] at writes
    dsimp only
    rw [run_bind_error (writeFile_run (c := c.proceed _ [] _) writes), Machine.proceed_proceed,
      List.append_nil, List.append_nil]

/-- A single conversion reads the source of its job and converts it. -/
lemma convert_of_single {o : Options} (single : o.inputs.length ≤ 1) (schedule : Schedule) :
    (convert o schedule : ExceptT Failure (SessionOn W) Summary) =
      readSource o.job >>= convertOne o o.job.label := by
  unfold convert Options.job readSource Job.label
  cases stdin : o.readsStdin with
  | true => rfl
  | false =>
    match inputs : o.inputs with
    | [] => simp [Options.readsStdin, inputs] at stdin
    | [input] => rfl
    | _ :: _ :: _ => simp [inputs] at single

variable [LawfulPlatform W]

/-- A source that is converted alone. -/
lemma convertOne_run (o : Options) (label : String) {source : Text} {s : Scan} {w : W}
    (scanned : scan source = .ok s)
    (writes : Writes c.workspace (o.rendering.render s) o.output (.ok ()) w) :
    (convertOne o label source : ExceptT Failure (SessionOn W) Summary).run.run c =
      (.ok { converted := 1, issues := s.issues.length },
        c.proceed w (if o.output.isNone then o.rendering.render s else [])
          (if o.strict then s.tokens.flatMap (Token.report label) else [])) := by
  unfold convertOne
  rw [run_bind_ok (convertSource_run o label scanned)]
  cases output : o.output with
  | none =>
    rw [output] at writes
    cases writes with
    | stdout =>
      dsimp only
      rw [run_bind_ok (writeOutput_run _), Machine.proceed_proceed, List.append_nil]
      rfl
  | some path =>
    rw [output] at writes
    dsimp only
    rw [run_bind_ok (writeFile_run (c := c.proceed _ [] _) writes), Machine.proceed_proceed,
      List.append_nil, List.append_nil]
    rfl

/-- An attempt at one of several inputs goes as its job ends. A converted input is announced. -/
lemma convertBeside_run (o : Options) {input : String} {outcome : Outcome} {w : W}
    (ends : (Job.beside input).Ends o.rendering c.stdin c.workspace outcome w) :
    (convertBeside o input : ExceptT Failure (SessionOn W) Nat).run.run c =
      (outcome.result, c.proceed w (outcome.notice input)
        (if o.strict then outcome.reports input else [])) := by
  unfold convertBeside
  cases ends with
  | unread reads =>
    rw [run_bind_error (readFile_run reads)]
    show _ = (_, c.proceed c.workspace [] (if o.strict then [] else []))
    rw [ite_self, Machine.proceed_self]
    rfl
  | unwritten reads scanned writes =>
    rw [run_bind_ok (readFile_run reads), run_bind_ok (convertSource_run o input scanned)]
    dsimp only
    rw [run_bind_error (writeFile_run (c := c.proceed _ [] _) writes), Machine.proceed_proceed,
      List.append_nil, List.append_nil]
    rfl
  | converted reads scanned writes =>
    rw [run_bind_ok (readFile_run reads), run_bind_ok (convertSource_run o input scanned)]
    dsimp only
    rw [run_bind_ok (writeFile_run (c := c.proceed _ [] _) writes),
      run_bind_ok (run_lift (printLine_run _)), Machine.proceed_proceed, Machine.proceed_proceed,
      List.append_nil, List.append_nil]
    rfl

/-- A single conversion goes as its job ends. -/
lemma convert_run_single {o : Options} {outcome : Outcome} {w : W}
    (single : o.inputs.length ≤ 1) (schedule : Schedule)
    (ends : o.job.Ends o.rendering c.stdin c.workspace outcome w) :
    (convert o schedule : ExceptT Failure (SessionOn W) Summary).run.run c =
      (outcome.result.map fun issues => { converted := 1, issues },
        c.proceed w (o.job.printed o.rendering outcome)
          (if o.strict then outcome.reports o.job.label else [])) := by
  rw [convert_of_single single]
  cases ends with
  | unread reads =>
    rw [run_bind_error (readSource_run reads)]
    show _ = (_, c.proceed c.workspace [] (if o.strict then [] else []))
    rw [ite_self, Machine.proceed_self]
    rfl
  | unwritten reads scanned writes =>
    rw [run_bind_ok (readSource_run reads), convertOne_run_error o _ scanned writes]
    rfl
  | converted reads scanned writes =>
    rw [run_bind_ok (readSource_run reads), convertOne_run o _ scanned writes]
    rfl

end Program

end Highlight
