import Highlight.Proofs.Runs
import Highlight.Proofs.Schedules
import Mathlib.Algebra.Ring.Nat

/-!
# Batches

The attempts of a run follow one another, each on the files that the one before it left (`Batch`).
Several inputs are converted in such a batch, in the order of a schedule (`Program.convertAll_run`).
Where an attempt that fails leaves the files as they were, it can be taken out of the batch
(`Batch.filter`).
-/

namespace Highlight

/-! ### Attempts in a row -/

/-- An attempt at a job, with the files before and after it. -/
structure Attempt (W : Type) where
  job : Job
  before : W
  outcome : Outcome
  after : W

variable {W : Type}

namespace Attempt

/-- The lines that a strict run reports the errors of the source with. -/
def reports (a : Attempt W) : Text := a.outcome.reports a.job.label

/-- The line that announces what was written beside the source. -/
def notice (a : Attempt W) : Text := a.outcome.notice a.job.label

/-- A conversion puts the markup of what it read beside the source and changes nothing else, and a
failure changes nothing. -/
inductive Isolated [Platform W] [FramedPlatform W] (r : Rendering) (a : Attempt W) : Prop where
  | converted {input s source html} :
    a.job = .beside input →
    a.outcome = .converted s →
    Platform.read a.before input = .ok source.encode →
    scan source = .ok s →
    r.toHtml source = .ok html →
    FramedPlatform.Sets a.before (input ++ ".html") html.encode a.after →
    Isolated r a
  | failed {failure} :
    a.outcome.result = .error failure →
    a.after = a.before →
    Isolated r a

end Attempt

section Platform

variable [Platform W]

/-- Attempts that follow one another. -/
inductive Batch (r : Rendering) (stdin : ByteArray) : W → List (Attempt W) → W → Prop where
  | nil {w} :
    Batch r stdin w [] w
  | cons {a attempts last} :
    a.job.Ends r stdin a.before a.outcome a.after →
    Batch r stdin a.after attempts last →
    Batch r stdin a.before (a :: attempts) last

/-- Some jobs can be attempted one after the other. -/
lemma exists_batch (r : Rendering) (stdin : ByteArray) (jobs : List Job) (w : W) :
    ∃ attempts last, attempts.map Attempt.job = jobs ∧ Batch r stdin w attempts last := by
  induction jobs generalizing w with
  | nil => exact ⟨[], w, rfl, .nil⟩
  | cons job jobs ih =>
    obtain ⟨outcome, w', ends⟩ := job.exists_ends r stdin w
    obtain ⟨attempts, last, rfl, batch⟩ := ih w'
    exact ⟨_, last, rfl, .cons (a := ⟨job, w, outcome, w'⟩) ends batch⟩

namespace Batch

variable {r : Rendering} {stdin : ByteArray} {w last : W} {attempts : List (Attempt W)}

/-- No attempt changes nothing. -/
lemma nil_inv (batch : Batch r stdin w [] last) : w = last := by
  cases batch with
  | nil => rfl

/-- The first attempt is made on the files at first. -/
lemma cons_inv {a : Attempt W} (batch : Batch r stdin w (a :: attempts) last) :
    a.before = w ∧ a.job.Ends r stdin a.before a.outcome a.after ∧
      Batch r stdin a.after attempts last := by
  cases batch with
  | cons ends batch => exact ⟨rfl, ends, batch⟩

/-- Every attempt ends as its job does at that moment. -/
lemma ends (batch : Batch r stdin w attempts last) :
    ∀ a ∈ attempts, a.job.Ends r stdin a.before a.outcome a.after := by
  induction batch with
  | nil =>
    intro a mem
    cases mem
  | cons ends _ ih => exact List.forall_mem_cons.2 ⟨ends, ih⟩

end Batch

end Platform

section Framed

variable [Platform W] [FramedPlatform W]

/-- An attempt at one of several inputs disturbs nothing but the markup beside it. -/
lemma Job.Ends.isolated {r : Rendering} {stdin : ByteArray} {a : Attempt W} {input : String}
    (job : a.job = .beside input) (ends : a.job.Ends r stdin a.before a.outcome a.after) :
    a.Isolated r := by
  obtain ⟨_, before, outcome, after⟩ := a
  subst job
  cases ends with
  | unread _ => exact .failed rfl rfl
  | unwritten _ _ writes => exact .failed rfl writes.eq_of_error
  | converted reads scanned writes =>
    have shown := r.toHtml_of_scan scanned
    cases reads with
    | file read =>
      cases writes with
      | file ok => exact .converted rfl rfl read scanned shown (FramedPlatform.sets_of_write ok)

namespace Batch

variable {r : Rendering} {stdin : ByteArray} {w last : W} {attempts : List (Attempt W)}

/-- The attempts at several inputs disturb nothing but the markup beside them. -/
lemma isolated {inputs : List String} (batch : Batch r stdin w attempts last)
    (jobs : attempts.map Attempt.job = inputs.map .beside) : ∀ a ∈ attempts, a.Isolated r := by
  intro a mem
  obtain ⟨input, -, job⟩ := List.mem_map.1 (jobs ▸ List.mem_map_of_mem mem)
  exact (batch.ends a mem).isolated job.symm

/-- Attempts that failed can be left out. -/
lemma filter (batch : Batch r stdin w attempts last) :
    Batch r stdin w (attempts.filter (·.outcome.isConverted)) last := by
  induction batch with
  | nil => exact .nil
  | @cons a attempts last ends batch ih =>
    rw [List.filter_cons]
    cases converted : a.outcome.isConverted with
    | true => exact .cons ends ih
    | false =>
      rw [if_neg Bool.false_ne_true, ← ends.eq_of_not_isConverted converted]
      exact ih

end Batch

end Framed

/-! ### Summaries -/

namespace Summary

/-- The summary of some attempts. -/
def ofAttempts (attempts : List (Attempt W)) : Summary where
  converted := attempts.countP (·.outcome.isConverted)
  failed := attempts.countP (!·.outcome.isConverted)
  issues := (attempts.map (·.outcome.issues)).sum

/-- An outcome is counted on top of what was counted before. -/
lemma count_result (s : Summary) (outcome : Outcome) :
    s.count outcome.result =
      { converted := s.converted + outcome.isConverted.toNat
        failed := s.failed + (!outcome.isConverted).toNat
        issues := s.issues + outcome.issues } := by
  cases outcome <;> rfl

/-- Attempts are counted on top of what was counted before. -/
lemma foldl_count (attempts : List (Attempt W)) (s : Summary) :
    (attempts.map (·.outcome.result)).foldl count s =
      { converted := s.converted + (ofAttempts attempts).converted
        failed := s.failed + (ofAttempts attempts).failed
        issues := s.issues + (ofAttempts attempts).issues } := by
  induction attempts generalizing s with
  | nil => rfl
  | cons a attempts ih =>
    rw [List.map_cons, List.foldl_cons, ih, count_result]
    simp only [ofAttempts, List.countP_cons, List.map_cons, List.sum_cons]
    cases a.outcome.isConverted with
    | true => simp; omega
    | false => simp; omega

/-- What became of some attempts is counted as their summary says. -/
lemma ofOutcomes_eq (attempts : List (Attempt W)) :
    ofOutcomes (attempts.map (·.outcome.result)) = ofAttempts attempts := by
  rw [ofOutcomes, foldl_count]
  simp only [Nat.zero_add]

end Summary

namespace Program
open Session

variable [Platform W] {c : Machine W} {attempts : List (Attempt W)} {w : W}

/-- The failures are told behind the attempts. -/
lemma forM_warnError_run (attempts : List (Attempt W)) :
    ((attempts.map (·.outcome.result)).forM fun
      | .ok _ => pure ()
      | .error failure => warnError failure.message : SessionOn W PUnit).run c =
        ((), c.proceed c.workspace [] (attempts.flatMap (·.outcome.errors))) := by
  induction attempts generalizing c with
  | nil =>
    rw [List.flatMap_nil, Machine.proceed_self]
    rfl
  | cons a attempts ih =>
    have told : ((match a.outcome.result with
        | .ok _ => pure ()
        | .error failure => warnError failure.message) : SessionOn W PUnit).run c =
          ((), c.proceed c.workspace [] a.outcome.errors) := by
      unfold Outcome.errors
      cases a.outcome.result with
      | ok _ => exact congrArg _ c.proceed_self.symm
      | error failure => exact warn_run _
    show (_ >>= fun _ => (attempts.map _).forM _ : SessionOn W PUnit).run c = _
    rw [run_bind told, ih, Machine.proceed_proceed]
    rfl

/-- Several inputs are not read as one. -/
lemma convert_run_many {o : Options} (many : 2 ≤ o.inputs.length) {schedule : Schedule}
    {summary : Summary} {after : Machine W}
    (run : (convertAll o schedule : SessionOn W Summary).run c = (summary, after)) :
    (convert o schedule : ExceptT Failure (SessionOn W) Summary).run.run c =
      (.ok summary, after) := by
  match inputs : o.inputs with
  | [] => simp [inputs] at many
  | [_] => simp [inputs] at many
  | _ :: _ :: _ =>
    have files : o.readsStdin = false := by rw [Options.readsStdin, inputs]
    unfold convert
    rw [files, if_neg Bool.false_ne_true, inputs]
    exact run_lift run

variable [LawfulPlatform W]

/-- Inputs are attempted by their places, and what became of them is noted with the place. -/
lemma mapM_convertBeside_run (o : Options) {inputs : List String}
    {attempt : Fin inputs.length → Attempt W}
    (jobs : ∀ i, (attempt i).job = .beside (inputs.get i)) {turns : List (Fin inputs.length)}
    (batch : Batch o.rendering c.stdin c.workspace (turns.map attempt) w) :
    (turns.mapM fun i => (do
      let outcome ← (convertBeside o (inputs.get i)).run
      return (i, outcome)) : SessionOn W _).run c =
        (turns.map fun i => (i, (attempt i).outcome.result),
          c.proceed w ((turns.map attempt).flatMap Attempt.notice)
            (if o.strict then (turns.map attempt).flatMap Attempt.reports else [])) := by
  induction turns generalizing c with
  | nil =>
    obtain rfl := batch.nil_inv
    show _ = (_, c.proceed c.workspace [] (if o.strict then [] else []))
    rw [ite_self, Machine.proceed_self]
    rfl
  | cons i turns ih =>
    obtain ⟨before, ends, batch⟩ := batch.cons_inv
    rw [jobs, before] at ends
    have noted : (do
        let outcome ← (convertBeside o (inputs.get i)).run
        return (i, outcome) : SessionOn W _).run c =
          ((i, (attempt i).outcome.result), c.proceed (attempt i).after (attempt i).notice
            (if o.strict then (attempt i).reports else [])) := by
      rw [run_bind (convertBeside_run o ends), Attempt.notice, Attempt.reports, jobs]
      rfl
    rw [List.mapM_cons, run_bind noted, run_bind (ih (c := c.proceed _ _ _) batch),
      Machine.proceed_proceed]
    cases o.strict with
    | true => rfl
    | false => rfl

/-- Several inputs are attempted in the order of a schedule. -/
lemma convertEach_run (o : Options) (schedule : Schedule) {inputs : List String}
    (batch : Batch o.rendering c.stdin c.workspace (schedule.arrange attempts) w)
    (jobs : attempts.map Attempt.job = inputs.map .beside) :
    (convertEach o inputs schedule : SessionOn W _).run c =
      (attempts.map (·.outcome.result),
        c.proceed w ((schedule.arrange attempts).flatMap Attempt.notice)
          (if o.strict then (schedule.arrange attempts).flatMap Attempt.reports else [])) := by
  have length : attempts.length = inputs.length := by
    rw [← List.length_map Attempt.job, jobs, List.length_map]
  have job (i : Fin inputs.length) : (attempts.get (i.cast length.symm)).job =
      .beside (inputs.get i) := by
    have same := congrArg (fun jobs => jobs[i.val]?) jobs
    simpa [length] using same
  rw [schedule.arrange_of_length length] at batch ⊢
  unfold convertEach
  rw [run_bind (mapM_convertBeside_run o job batch)]
  refine Prod.ext ?_ rfl
  calc (List.finRange inputs.length).filterMap (fun i => List.lookup i _)
    _ = (List.finRange inputs.length).map fun i =>
          (attempts.get (i.cast length.symm)).outcome.result := by
      rw [List.filterMap_congr fun i _ => List.lookup_graph _ (schedule.mem_turns i),
        List.filterMap_eq_map']
    _ = (Schedule.inTurn.arrange attempts).map (·.outcome.result) := by
      rw [Schedule.inTurn.arrange_of_length length, List.map_map]
      rfl
    _ = attempts.map (·.outcome.result) := by rw [Schedule.arrange_inTurn]

/-- Several inputs are attempted in the order of a schedule, and then their failures are told in
the order of the inputs. -/
lemma convertAll_run (o : Options) (schedule : Schedule)
    (batch : Batch o.rendering c.stdin c.workspace (schedule.arrange attempts) w)
    (jobs : attempts.map Attempt.job = o.inputs.map .beside) :
    (convertAll o schedule : SessionOn W Summary).run c =
      (.ofAttempts attempts, c.proceed w ((schedule.arrange attempts).flatMap Attempt.notice)
        ((if o.strict then (schedule.arrange attempts).flatMap Attempt.reports else []) ++
          attempts.flatMap (·.outcome.errors))) := by
  unfold convertAll
  rw [run_bind (convertEach_run o schedule batch jobs)]
  refine (run_bind (forM_warnError_run attempts)).trans ?_
  rw [Machine.proceed_proceed, List.append_nil, Summary.ofOutcomes_eq]
  rfl

/-- Several inputs are attempted in turn if nothing else is scheduled. -/
lemma convertAll_run_inTurn (o : Options)
    (batch : Batch o.rendering c.stdin c.workspace attempts w)
    (jobs : attempts.map Attempt.job = o.inputs.map .beside) :
    (convertAll o : SessionOn W Summary).run c =
      (.ofAttempts attempts, c.proceed w (attempts.flatMap Attempt.notice)
        ((if o.strict then attempts.flatMap Attempt.reports else []) ++
          attempts.flatMap (·.outcome.errors))) := by
  rw [← Schedule.arrange_inTurn attempts] at batch
  rw [convertAll_run o .inTurn batch jobs, Schedule.arrange_inTurn]

end Program

/-! ### Failures in a batch -/

/-- The inputs of a batch that were converted. -/
def survivors (attempts : List (Attempt W)) : List String :=
  (attempts.filter (·.outcome.isConverted)).map (·.job.label)

/-- The attempts that did not fail are attempts at the inputs that survive. -/
lemma map_job_survivors {attempts : List (Attempt W)} {inputs : List String}
    (jobs : attempts.map Attempt.job = inputs.map .beside) :
    (attempts.filter (·.outcome.isConverted)).map Attempt.job =
      (survivors attempts).map .beside := by
  rw [survivors, List.map_map]
  refine List.map_congr_left fun a mem => ?_
  obtain ⟨input, -, job⟩ := List.mem_map.1 (jobs ▸ List.mem_map_of_mem (List.mem_filter.1 mem).1)
  rw [Function.comp_apply, ← job]
  rfl

/-- Only a conversion is announced, and only its issues count. -/
lemma Outcome.of_not_isConverted {outcome : Outcome} (failed : outcome.isConverted = false)
    (input : String) : outcome.notice input = [] ∧ outcome.issues = 0 := by
  cases outcome with
  | unread _ => exact ⟨rfl, rfl⟩
  | unwritten _ _ => exact ⟨rfl, rfl⟩
  | converted _ => cases failed

/-- The attempts that failed add nothing to the announcements. -/
lemma flatMap_notice_filter (attempts : List (Attempt W)) :
    (attempts.filter (·.outcome.isConverted)).flatMap Attempt.notice =
      attempts.flatMap Attempt.notice := by
  induction attempts with
  | nil => rfl
  | cons a attempts ih =>
    rw [List.filter_cons, List.flatMap_cons]
    cases converted : a.outcome.isConverted with
    | true => rw [if_pos rfl, List.flatMap_cons, ih]
    | false =>
      have silent : a.notice = [] := (Outcome.of_not_isConverted converted _).1
      rw [if_neg Bool.false_ne_true, ih, silent, List.nil_append]

/-- The attempts that failed add nothing to a summary but their number. -/
lemma Summary.ofAttempts_filter (attempts : List (Attempt W)) :
    ofAttempts (attempts.filter (·.outcome.isConverted)) =
      { ofAttempts attempts with failed := 0 } := by
  induction attempts with
  | nil => rfl
  | cons a attempts ih =>
    obtain ⟨same, none, sum⟩ := Summary.mk.inj ih
    rw [List.filter_cons]
    cases converted : a.outcome.isConverted with
    | true =>
      rw [if_pos rfl]
      simp only [ofAttempts, List.countP_cons, List.map_cons, List.sum_cons, converted] at *
      rw [same, none, sum]
      rfl
    | false =>
      have uncounted := (Outcome.of_not_isConverted converted a.job.label).2
      rw [if_neg Bool.false_ne_true, ih]
      simp [ofAttempts, converted, uncounted]

/-- Several inputs are converted one after the other and all of them are counted, whatever becomes
of them. A conversion puts the markup of its input, as this is then, beside it and changes nothing
else; a failure changes nothing. Without the inputs that failed, the files, the announcements and
what is counted for the others are the same. -/
theorem convert_batch_isolates_failures {W : Type} [Platform W] [FramedPlatform W] (o : Options)
    (many : 2 ≤ o.inputs.length) (before : Machine W) :
    ∃ attempts summary after,
      (Program.convert o : ExceptT Failure (SessionOn W) Summary).run.run before =
        (.ok summary, after) ∧
      attempts.map Attempt.job = o.inputs.map .beside ∧
      Batch o.rendering before.stdin before.workspace attempts after.workspace ∧
      (∀ a ∈ attempts, a.Isolated o.rendering) ∧
      summary.converted = (survivors attempts).length ∧
      summary.converted + summary.failed = o.inputs.length ∧
      summary.issues = (attempts.map (·.outcome.issues)).sum ∧
      ∃ after',
        (Program.convertAll { o with inputs := survivors attempts } : SessionOn W Summary).run
          before = ({ summary with failed := 0 }, after') ∧
        after'.workspace = after.workspace ∧ after'.stdout = after.stdout := by
  obtain ⟨attempts, last, jobs, batch⟩ :=
    exists_batch o.rendering before.stdin (o.inputs.map .beside) before.workspace
  have run := Program.convert_run_many many (Program.convertAll_run_inTurn o batch jobs)
  have rerun := Program.convertAll_run_inTurn { o with inputs := survivors attempts } batch.filter
    (map_job_survivors jobs)
  rw [flatMap_notice_filter, Summary.ofAttempts_filter] at rerun
  refine ⟨attempts, _, _, run, jobs, batch, batch.isolated jobs, ?_, ?_, rfl, _, rerun, rfl, rfl⟩
  · rw [survivors, List.length_map, ← List.countP_eq_length_filter]
    rfl
  · have length := congrArg List.length jobs
    rw [List.length_map, List.length_map] at length
    rw [← length, List.length_eq_countP_add_countP (·.outcome.isConverted)]
    simp [Summary.ofAttempts]

/-- An input that is not there fails, and the other one is converted as it would be alone. -/
theorem convert_batch_beside_missing_input :
    ∃ (o : Options) (before : Console), 2 ≤ o.inputs.length ∧ o.inputs = ["gone.py", "a.py"] ∧
      before.workspace.read "gone.py".toList = .error .notFound ∧
      before.workspace.read "a.py".toList = .ok (Text.encode "'x".toList) ∧
      ∃ summary after,
        (Program.convert o : ExceptT Failure Session Summary).run.run before =
          (.ok summary, after) ∧
        summary.converted = 1 ∧ summary.failed = 1 ∧
        ∃ after',
          (Program.convertAll { o with inputs := ["a.py"] } : Session Summary).run before =
            ({ summary with failed := 0 }, after') ∧
          after'.workspace = after.workspace ∧ after'.stdout = after.stdout := by
  obtain ⟨w, gone, content, accepts⟩ : ∃ w : Workspace,
      w.read "gone.py".toList = .error .notFound ∧
      w.read "a.py".toList = .ok (Text.encode "'x".toList) ∧ w.Accepts "a.py.html".toList := by
    refine ⟨{ entries := [(["a.py".toList], .file (Text.encode "'x".toList))] }, by decide,
      by decide, ?_⟩
    exact ⟨[] ++ ["a.py.html".toList], .name (by decide) (by decide) (by decide), by decide⟩
  obtain ⟨attempts, summary, after, run, jobs, batch, isolated, converted, total, -, rerun⟩ :=
    convert_batch_isolates_failures { inputs := ["gone.py", "a.py"] } (by decide)
      ({ workspace := w } : Console)
  refine ⟨_, _, by decide, rfl, gone, content, summary, after, run, ?_⟩
  obtain ⟨⟨_, before₁, outcome₁, after₁⟩, others, rfl, ⟨⟩, rest⟩ := List.map_eq_cons_iff.1 jobs
  obtain ⟨⟨_, before₂, outcome₂, after₂⟩, more, rfl, ⟨⟩, empty⟩ := List.map_eq_cons_iff.1 rest
  obtain rfl : more = [] := List.map_eq_nil_iff.1 empty
  obtain ⟨rfl, ends₁, batch⟩ := batch.cons_inv
  obtain ⟨rfl, ends₂, -⟩ := batch.cons_inv
  have unreadable := Workspace.platform_read_of_error gone
  cases ends₁ with
  | unread _ =>
    have feasible : (Job.beside "a.py").Feasible .empty before₁ :=
      ⟨⟨_, .file (Workspace.platform_read_eq_ok.2 content)⟩, by rintro _ ⟨⟩; exact accepts⟩
    have done : outcome₂.isConverted = true :=
      ends₂.isConverted_iff.2 (Job.succeeds_iff_feasible.2 feasible)
    cases outcome₂ with
    | unread _ => cases done
    | unwritten _ _ => cases done
    | converted _ =>
      have one : summary.converted = 1 := converted
      have both : summary.converted + summary.failed = 2 := total
      exact ⟨one, by omega, rerun⟩
  | unwritten reads _ _ => cases (Obtains.fileFailure unreadable).unique reads
  | converted reads _ _ => cases (Obtains.fileFailure unreadable).unique reads

end Highlight
