import Highlight.Proofs.Beside
import Highlight.Proofs.Content
import Mathlib.Data.List.Perm.Basic

/-!
# Interference

The markup of an input may go to the place of another one. The first conversion then disturbs the
second (`Disturbs`), unless the markup stood there already.

If no input disturbs another, all of them are converted as they were at first, and the files end the
same in every order (`Row.agree`). If one does, the orders with it in front of the other and behind
it end differently (`Disturbs.exists_orders`).
-/

namespace Highlight

open Workspace

/-! ### Orders that agree -/

/-- The conversion of one input changes what another one is converted from. -/
def Disturbs (r : Rendering) (w : Workspace) (input other : String) : Prop :=
  ∃ place s, w.Converts input place s ∧ w.Admits other (besidePlace place) ∧
    w.entry? (besidePlace place) ≠ some (.file (r.render s).encode)

/-- What stands at a place if the inputs told were converted as they were at first. -/
inductive Settled (r : Rendering) (first : Workspace) (inputs : List String) (place : Names)
    (entry : Option Entry) : Prop where
  | markup {input source s} :
    input ∈ inputs →
    first.Converts input source s →
    place = besidePlace source →
    entry = some (.file (r.render s).encode) →
    Settled r first inputs place entry
  | kept :
    (∀ input ∈ inputs, ∀ source s, first.Converts input source s → place ≠ besidePlace source) →
    entry = first.entry? place →
    Settled r first inputs place entry

namespace Settled

variable {r : Rendering} {first : Workspace} {inputs inputs' : List String} {place : Names}
  {entry entry' : Option Entry}

/-- What stands at a settled place is told by the inputs. -/
lemma unique (settled : Settled r first inputs place entry)
    (settled' : Settled r first inputs place entry') : entry = entry' := by
  cases settled with
  | markup mem converts here entry =>
    cases settled' with
    | markup _ converts' here' entry' =>
      obtain rfl := besidePlace_inj converts.opens.ne_nil converts'.opens.ne_nil
        (here.symm.trans here')
      rw [entry, entry', converts.scan_unique converts']
    | kept free _ => exact absurd here (free _ mem _ _ converts)
  | kept free entry =>
    cases settled' with
    | markup mem converts here _ => exact absurd here (free _ mem _ _ converts)
    | kept _ entry' => rw [entry, entry']

/-- The order of the inputs does not matter to what is settled. -/
lemma congr (settled : Settled r first inputs place entry)
    (same : ∀ input, input ∈ inputs ↔ input ∈ inputs') : Settled r first inputs' place entry := by
  cases settled with
  | markup mem converts here entry => exact .markup ((same _).1 mem) converts here entry
  | kept free entry => exact .kept (fun input mem => free input ((same input).2 mem)) entry

/-- One input more changes nothing at a place that its markup does not go to. -/
lemma concat {input : String} (settled : Settled r first inputs place entry)
    (elsewhere : ∀ source s, first.Converts input source s → place ≠ besidePlace source) :
    Settled r first (inputs ++ [input]) place entry := by
  cases settled with
  | markup mem converts here entry =>
    exact .markup (List.mem_append_left _ mem) converts here entry
  | kept free entry =>
    refine .kept (fun other mem => ?_) entry
    cases List.mem_append.1 mem with
    | inl mem => exact free other mem
    | inr mem =>
      obtain rfl := List.mem_singleton.1 mem
      exact elsewhere

end Settled

/-- A workspace behind the conversion of some inputs as they were at first. -/
structure Stage (r : Rendering) (first : Workspace) (done : List String) (w : Workspace) : Prop where
  same : SameFolders first w
  settled : ∀ place, Settled r first done place (w.entry? place)

namespace Stage

variable {r : Rendering} {first w w' : Workspace} {done : List String} {input : String}

/-- No input was converted at first. -/
lemma initial (r : Rendering) (first : Workspace) : Stage r first [] first :=
  ⟨.refl first, fun _ => .kept (fun _ mem => absurd mem List.not_mem_nil) rfl⟩

/-- An undisturbed input is still what it was at first. -/
lemma converts_iff (stage : Stage r first done w)
    (calm : ∀ other ∈ done, ¬ Disturbs r first other input) {place : Names} {s : Scan} :
    w.Converts input place s ↔ first.Converts input place s := by
  have entry (admits : first.Admits input place) : w.entry? place = first.entry? place := by
    cases stage.settled place with
    | markup mem converts here entry =>
      subst here
      by_contra changed
      apply calm _ mem
      exact ⟨_, _, converts, admits, fun already => changed (entry.trans already.symm)⟩
    | kept _ entry => exact entry
  constructor
  · intro converts
    have admits := converts.toAdmits.of_same stage.same.symm
    exact converts.of_same stage.same.symm (entry admits).symm
  · intro converts
    exact converts.of_same stage.same (entry converts.toAdmits)

/-- An undisturbed input is converted as it was at first. -/
lemma step {result : Option Scan} (stage : Stage r first done w)
    (calm : ∀ other ∈ done, ¬ Disturbs r first other input) (turns : Turns r w input result w') :
    Stage r first (done ++ [input]) w' := by
  refine ⟨stage.same.trans turns.sameFolders, fun place => ?_⟩
  cases turns with
  | @converted source s converts =>
    have at_first := (stage.converts_iff calm).1 converts
    by_cases here : place = besidePlace source
    · subst here
      exact .markup (by simp) at_first rfl (entry?_put_self w _ (besidePlace_ne_nil source))
    · rw [entry?_put_of_ne w _ here]
      refine (stage.settled place).concat fun source' s' converts' => ?_
      obtain ⟨rfl, -⟩ := at_first.unique converts'
      exact here
  | failed none =>
    refine (stage.settled place).concat fun source s converts => ?_
    exact absurd ((stage.converts_iff calm).2 converts) (none _ _)

/-- Undisturbed inputs are all converted as they were at first. -/
lemma run {inputs : List String} {results : List (Option Scan)} {last : Workspace}
    {result : String → Option Scan} (stage : Stage r first done w)
    (calm : ∀ other ∈ done ++ inputs, ∀ input ∈ done ++ inputs, ¬ Disturbs r first other input)
    (turns : ∀ input, ∃ w', Turns r first input (result input) w')
    (row : Row r w inputs results last) :
    Stage r first (done ++ inputs) last ∧ results = inputs.map result := by
  induction row generalizing done with
  | nil => exact ⟨by rwa [List.append_nil], rfl⟩
  | @cons w w' last input inputs _ results here row ih =>
    have calm_here : ∀ other ∈ done, ¬ Disturbs r first other input := fun other mem =>
      calm other (List.mem_append_left _ mem) input (by simp)
    rw [List.append_cons] at calm ⊢
    obtain ⟨stage', rfl⟩ := ih (stage.step calm_here here) calm
    obtain ⟨_, at_first⟩ := turns input
    rw [here.result_eq at_first fun _ _ => stage.converts_iff calm_here]
    exact ⟨stage', rfl⟩

end Stage

/-- Each input has its result if it comes first. -/
lemma exists_turns (r : Rendering) (w : Workspace) :
    ∃ result : String → Option Scan, ∀ input, ∃ w', Turns r w input (result input) w' := by
  have each (input : String) : ∃ result w', Turns r w input result w' := by
    obtain ⟨outcome, w', ends⟩ := (Job.beside input).exists_ends r .empty w
    exact ⟨_, w', ends.turns⟩
  choose result w' turns using each
  exact ⟨result, fun input => ⟨w' input, turns input⟩⟩

namespace Row

variable {r : Rendering} {w last last' : Workspace} {inputs inputs' : List String}
  {results results' : List (Option Scan)}

/-- Undisturbed inputs, in a row, are converted as if each came first. -/
lemma settled {result : String → Option Scan} (row : Row r w inputs results last)
    (calm : ∀ other ∈ inputs, ∀ input ∈ inputs, ¬ Disturbs r w other input)
    (turns : ∀ input, ∃ w', Turns r w input (result input) w') :
    Stage r w inputs last ∧ results = inputs.map result :=
  (Stage.initial r w).run calm turns row

/-- Undisturbed inputs are converted to the same in every order. -/
lemma agree (row : Row r w inputs results last) (row' : Row r w inputs' results' last')
    (calm : ∀ other ∈ inputs, ∀ input ∈ inputs, ¬ Disturbs r w other input)
    (perm : inputs.Perm inputs') : results.Perm results' ∧ SameFiles last last' := by
  obtain ⟨result, turns⟩ := exists_turns r w
  obtain ⟨stage, rfl⟩ := row.settled calm turns
  have calm' : ∀ other ∈ inputs', ∀ input ∈ inputs', ¬ Disturbs r w other input := by
    intro other mem input mem'
    exact calm other (perm.mem_iff.2 mem) input (perm.mem_iff.2 mem')
  obtain ⟨stage', rfl⟩ := row'.settled calm' turns
  refine ⟨perm.map result, stage'.same.home.trans stage.same.home.symm, fun names => ?_⟩
  have settled := (stage.settled names).congr fun input => perm.mem_iff
  exact (stage'.settled names).unique settled

end Row

/-! ### Orders that differ -/

/-- A source is told by its markup. -/
lemma Rendering.source_unique (r : Rendering) {t t' : Text} {s s' : Scan} (scanned : scan t = .ok s)
    (scanned' : scan t' = .ok s') (same : r.render s = r.render s') : t = t' := by
  obtain ⟨_, html, _, ok, shows⟩ := r.exists_shows_toHtml t
  obtain ⟨_, html', _, ok', shows'⟩ := r.exists_shows_toHtml t'
  obtain rfl : r.render s = html := Except.ok.inj ((r.toHtml_of_scan scanned).symm.trans ok)
  obtain rfl : r.render s' = html' := Except.ok.inj ((r.toHtml_of_scan scanned').symm.trans ok')
  apply r.content_injective
  calc r.content t = unescape (textOf (r.render s)) := by rw [shows.textOf_eq, unescape_escaped]
    _ = unescape (textOf (r.render s')) := by rw [same]
    _ = r.content t' := by rw [shows'.textOf_eq, unescape_escaped]

/-- Inputs at the same place do not disturb each other. -/
lemma not_disturbs_of_opens {r : Rendering} {w : Workspace} {place : Names} {input other : String}
    (opens : w.Opens input.toList place) (opens' : w.Opens other.toList place) :
    ¬ Disturbs r w input other := by
  rintro ⟨source, s, converts, admits, -⟩
  obtain rfl := converts.opens.unique opens
  exact besidePlace_ne opens.ne_nil (admits.opens.unique opens')

namespace Row

variable {r : Rendering} {w last last' : Workspace} {inputs : List String} {place : Names}
  {results results' : List (Option Scan)}

/-- A row makes and removes no directory. -/
lemma sameFolders (row : Row r w inputs results last) : SameFolders w last := by
  induction row with
  | nil => exact .refl _
  | cons turns _ ih => exact turns.sameFolders.trans ih

/-- Inputs that cannot be converted do nothing. -/
lemma eq_of_not_converts (row : Row r w inputs results last)
    (unfit : ∀ input ∈ inputs, ∀ place s, ¬ w.Converts input place s) :
    last = w ∧ ∀ result ∈ results, result = none := by
  induction row with
  | nil => exact ⟨rfl, nofun⟩
  | cons turns _ ih =>
    obtain ⟨unfit_head, unfit⟩ := List.forall_mem_cons.1 unfit
    cases turns with
    | converted converts => exact absurd converts (unfit_head _ _)
    | failed _ =>
      obtain ⟨rfl, failed⟩ := ih unfit
      exact ⟨rfl, List.forall_mem_cons.2 ⟨rfl, failed⟩⟩

/-! Inputs at one place -/

/-- Inputs at one place are converted as if each came first. -/
lemma settled_of_opens {result : String → Option Scan} (row : Row r w inputs results last)
    (opens : ∀ input ∈ inputs, w.Opens input.toList place)
    (turns : ∀ input, ∃ w', Turns r w input (result input) w') :
    Stage r w inputs last ∧ results = inputs.map result := by
  refine row.settled (fun other mem input mem' => ?_) turns
  exact not_disturbs_of_opens (opens other mem) (opens input mem')

/-- Inputs at one place change nothing but what stands beside it. -/
lemma entry?_of_opens {names : Names} (row : Row r w inputs results last)
    (opens : ∀ input ∈ inputs, w.Opens input.toList place) (ne : names ≠ besidePlace place) :
    last.entry? names = w.entry? names := by
  obtain ⟨result, turns⟩ := exists_turns r w
  cases (row.settled_of_opens opens turns).1.settled names with
  | markup mem converts here _ =>
    rw [converts.opens.unique (opens _ mem)] at here
    exact absurd here ne
  | kept _ entry => exact entry

/-- Inputs at one place leave its markup beside it if one of them can be converted. -/
lemma markup_of_opens {input : String} {s : Scan} (row : Row r w inputs results last)
    (opens : ∀ input ∈ inputs, w.Opens input.toList place) (mem : input ∈ inputs)
    (converts : w.Converts input place s) :
    last.entry? (besidePlace place) = some (.file (r.render s).encode) ∧ some s ∈ results := by
  obtain ⟨result, turns⟩ := exists_turns r w
  obtain ⟨stage, rfl⟩ := row.settled_of_opens opens turns
  obtain ⟨_, turn⟩ := turns input
  constructor
  · exact (stage.settled _).unique (.markup mem converts rfl rfl)
  · rw [← (turn.eq_of_converts converts).1]
    exact List.mem_map_of_mem mem

/-! An input and those at the place beside it -/

variable {input other : String} {readers rest : List String} {s : Scan}

/-- In front of them, an input is converted, and they are converted from its markup. -/
lemma in_front (row : Row r w (input :: (readers ++ rest)) results last)
    (converts : w.Converts input place s) (admits : w.Admits other (besidePlace place))
    (mem : other ∈ readers) (opens : ∀ x ∈ readers, w.Opens x.toList (besidePlace place)) :
    ∃ mid first second s', results = some s :: (first ++ second) ∧ Row r mid rest second last ∧
      SameFolders w mid ∧ scan (r.render s) = .ok s' ∧ some s' ∈ first ∧
      mid.entry? (besidePlace (besidePlace place)) = some (.file (r.render s').encode) ∧
      ∀ names, names ≠ besidePlace (besidePlace place) →
        mid.entry? names =
          Workspace.entry? (w.put (besidePlace place) (.file (r.render s).encode)) names := by
  cases row with
  | cons turns row =>
    have folders := turns.sameFolders
    obtain ⟨rfl, rfl⟩ := turns.eq_of_converts converts
    obtain ⟨mid, first, second, rfl, front, back⟩ := row.append_inv
    have opens' := fun x mem => folders.opens.2 (opens x mem)
    obtain ⟨lexemes, -, scanned⟩ := Cursor.scan_runs (r.render s)
    obtain ⟨written, counted⟩ := front.markup_of_opens opens' mem
      ⟨admits.of_same folders, _, entry?_put_self w _ (besidePlace_ne_nil place), scanned⟩
    exact ⟨mid, first, second, _, rfl, back, folders.trans front.sameFolders, scanned, counted,
      written, fun names ne => front.entry?_of_opens opens' ne⟩

/-- Behind them, an input is converted as it was. -/
lemma behind (row : Row r w (readers ++ input :: rest) results last)
    (converts : w.Converts input place s)
    (opens : ∀ x ∈ readers, w.Opens x.toList (besidePlace place)) :
    ∃ mid first second, results = first ++ some s :: second ∧ Row r w readers first mid ∧
      SameFolders w (mid.put (besidePlace place) (.file (r.render s).encode)) ∧
      Row r (mid.put (besidePlace place) (.file (r.render s).encode)) rest second last := by
  obtain ⟨mid, first, second, rfl, front, row⟩ := row.append_inv
  cases row with
  | cons turns back =>
    have folders := front.sameFolders.trans turns.sameFolders
    have kept := front.entry?_of_opens opens (besidePlace_besidePlace_ne converts.opens.ne_nil).symm
    obtain ⟨rfl, rfl⟩ := turns.eq_of_converts (converts.of_same front.sameFolders kept)
    exact ⟨mid, first, _, rfl, front, folders, back⟩

/-- In front of them or behind them: the files end differently, or not as many inputs are
converted. -/
lemma countP_ne (row : Row r w (input :: (readers ++ rest)) results last)
    (row' : Row r w (readers ++ input :: rest) results' last') (same : SameFiles last last')
    (converts : w.Converts input place s) (admits : w.Admits other (besidePlace place))
    (changes : w.entry? (besidePlace place) ≠ some (.file (r.render s).encode))
    (mem : other ∈ readers) (opens : ∀ x ∈ readers, w.Opens x.toList (besidePlace place))
    (closed : ∀ x ∈ rest, ¬ w.Opens x.toList (besidePlace place)) :
    results.countP (·.isSome) ≠ results'.countP (·.isSome) := by
  have target := besidePlace_ne_nil place
  obtain ⟨mid, first, second, s₁, rfl, back, folders, scanned, counted, written, kept⟩ :=
    row.in_front converts admits mem opens
  obtain ⟨mid', first', second', rfl, front', folders', back'⟩ := row'.behind converts opens
  -- the rest does not write where the others do, so what they wrote is the same
  have beside : mid'.entry? (besidePlace (besidePlace place)) =
      some (.file (r.render s₁).encode) := by
    rw [← entry?_put_of_ne mid' (.file (r.render s).encode) (besidePlace_ne target),
      ← back'.entry?_besidePlace target fun x mem => mt folders'.opens.1 (closed x mem),
      same.entries,
      back.entry?_besidePlace target fun x mem => mt folders.opens.1 (closed x mem), written]
  by_cases fit : ∃ x ∈ readers, ∃ s₂, w.Converts x (besidePlace place) s₂
  · -- the others are converted from two texts, so these are the same
    obtain ⟨x, mem', s₂, converts'⟩ := fit
    have written' := (front'.markup_of_opens opens mem' converts').1
    have shown := Text.encode_injective
      (Entry.file.inj (Option.some.inj (beside.symm.trans written')))
    obtain ⟨t, entry, scanned'⟩ := converts'.text
    obtain rfl := r.source_unique scanned scanned' shown
    exact absurd entry changes
  · -- the others fail if they come first, and the rest goes the same
    have unfit : ∀ x ∈ readers, ∀ place' s', ¬ w.Converts x place' s' := by
      intro x mem' place' s' converts'
      rw [converts'.opens.unique (opens x mem')] at converts'
      exact fit ⟨x, mem', s', converts'⟩
    obtain ⟨rfl, failed⟩ := front'.eq_of_not_converts unfit
    have same' : SameFiles mid (mid'.put (besidePlace place) (.file (r.render s).encode)) := by
      refine ⟨folders.home.symm, fun names => ?_⟩
      by_cases here : names = besidePlace (besidePlace place)
      · rw [here, written, entry?_put_of_ne _ _ (besidePlace_ne target), beside]
      · exact (kept names here).symm
    obtain ⟨rfl, -⟩ := back.congr back' same'
    have some_first : 0 < first.countP (·.isSome) := List.countP_pos_iff.2 ⟨_, counted, rfl⟩
    have none_first : first'.countP (·.isSome) = 0 := by
      refine List.countP_eq_zero.2 fun result mem => ?_
      rw [failed result mem]
      exact Bool.false_ne_true
    simp only [List.countP_cons, List.countP_append]
    omega

end Row

/-- An input that disturbs another one makes two orders differ. -/
lemma Disturbs.exists_orders {r : Rendering} {w : Workspace} {input other : String}
    {inputs : List String} (disturbs : Disturbs r w input other) (mem : input ∈ inputs)
    (mem' : other ∈ inputs) :
    ∃ one two, inputs.Perm one ∧ inputs.Perm two ∧
      ∀ results last results' last', Row r w one results last → Row r w two results' last' →
        SameFiles last last' → results.countP (·.isSome) ≠ results'.countP (·.isSome) := by
  classical
  obtain ⟨place, s, converts, admits, changes⟩ := disturbs
  have different : other ≠ input := by
    rintro rfl
    exact besidePlace_ne converts.opens.ne_nil (admits.opens.unique converts.opens)
  have perm := List.perm_cons_erase mem
  have parts := List.filter_append_perm (fun x => decide (w.Opens x.toList (besidePlace place)))
    (inputs.erase input)
  refine ⟨_, _, perm.trans (parts.symm.cons input),
    perm.trans ((parts.symm.cons input).trans List.perm_middle.symm), ?_⟩
  intro results last results' last' row row' same
  refine row.countP_ne row' same converts admits changes ?_ ?_ ?_
  · exact List.mem_filter.2 ⟨(List.mem_erase_of_ne different).2 mem', decide_eq_true admits.opens⟩
  · intro x mem
    exact of_decide_eq_true (List.mem_filter.1 mem).2
  · intro x mem opens
    simpa [opens] using (List.mem_filter.1 mem).2

/-! ### Orders of a run -/

namespace Summary

/-- The summary of some attempts by the scans of what was converted. -/
def ofResults (results : List (Option Scan)) : Summary where
  converted := results.countP (·.isSome)
  failed := results.countP (·.isNone)
  issues := (results.map (·.elim 0 (·.issues.length))).sum

/-- The scans of what was converted tell the summary. -/
lemma ofAttempts_eq (attempts : List (Attempt Workspace)) :
    ofAttempts attempts = ofResults (attempts.map (·.outcome.converted?)) := by
  unfold ofAttempts ofResults
  rw [List.countP_map, List.countP_map, List.map_map]
  congr 1
  refine List.countP_congr fun a _ => ?_
  simp [Outcome.isConverted]

/-- The order of the attempts does not matter to their summary. -/
lemma ofResults_perm {results results' : List (Option Scan)} (perm : results.Perm results') :
    ofResults results = ofResults results' := by
  unfold ofResults
  rw [perm.countP_eq, perm.countP_eq, (perm.map _).sum_nat]

end Summary

/-- A run with several inputs attempts them in a row. -/
lemma Program.convert_row {o : Options} (many : 2 ≤ o.inputs.length) (before : Console) :
    ∃ results after,
      (convert o : ExceptT Failure Session Summary).run.run before =
        (.ok (.ofResults results), after) ∧
      Row o.rendering before.workspace o.inputs results after.workspace := by
  obtain ⟨attempts, last, jobs, batch⟩ :=
    exists_batch o.rendering before.stdin (o.inputs.map .beside) before.workspace
  have run := convert_run_many many (convertAll_run_inTurn o batch jobs)
  rw [Summary.ofAttempts_eq] at run
  exact ⟨_, _, run, batch.row jobs⟩

/-- The order of several inputs does not matter, for the files and for the summary, if and only if
no input disturbs another: the markup of an input that can be converted goes to no place that
another input is converted from, unless this markup stands there already. -/
theorem convert_order_irrelevant_iff (o : Options) (many : 2 ≤ o.inputs.length) (before : Console) :
    (∀ inputs, o.inputs.Perm inputs → ∃ summary after after',
      (Program.convert o : ExceptT Failure Session Summary).run.run before = (.ok summary, after) ∧
      (Program.convert { o with inputs } : ExceptT Failure Session Summary).run.run before =
        (.ok summary, after') ∧
      after.workspace.SameFiles after'.workspace) ↔
    ∀ input ∈ o.inputs, ∀ other ∈ o.inputs,
      ¬ Disturbs o.rendering before.workspace input other := by
  have many_of_perm {inputs : List String} (perm : o.inputs.Perm inputs) : 2 ≤ inputs.length :=
    perm.length_eq ▸ many
  constructor
  · intro agree input mem other mem' disturbs
    obtain ⟨one, two, perm, perm', differ⟩ := disturbs.exists_orders mem mem'
    obtain ⟨summary, after, after₁, run, run₁, same₁⟩ := agree one perm
    obtain ⟨summary', after', after₂, run', run₂, same₂⟩ := agree two perm'
    obtain ⟨results₁, _, ran₁, row₁⟩ :=
      Program.convert_row (o := { o with inputs := one }) (many_of_perm perm) before
    obtain ⟨results₂, _, ran₂, row₂⟩ :=
      Program.convert_row (o := { o with inputs := two }) (many_of_perm perm') before
    cases run.symm.trans run'
    cases ran₁.symm.trans run₁
    obtain ⟨summaries, rfl⟩ := Prod.mk.inj (ran₂.symm.trans run₂)
    apply differ _ _ _ _ row₁ row₂ (same₁.symm.trans same₂)
    exact congrArg Summary.converted (Except.ok.inj summaries).symm
  · intro calm inputs perm
    obtain ⟨results, after, run, row⟩ := Program.convert_row many before
    obtain ⟨results', after', run', row'⟩ :=
      Program.convert_row (o := { o with inputs }) (many_of_perm perm) before
    obtain ⟨perm_results, same⟩ := row.agree row' calm perm
    rw [← Summary.ofResults_perm perm_results] at run'
    exact ⟨_, after, after', run, run', same⟩

/-- A file and another one that has the name of its markup are not converted to the same in both
orders. -/
theorem convert_order_matters_beside :
    ∃ (o : Options) (before : Console), 2 ≤ o.inputs.length ∧ o.inputs = ["a.py", "a.py.html"] ∧
      before.workspace.read "a.py".toList = .ok (Text.encode "x".toList) ∧
      before.workspace.read "a.py.html".toList = .ok (Text.encode "y".toList) ∧
      ¬ ∀ inputs, o.inputs.Perm inputs → ∃ summary after after',
        (Program.convert o : ExceptT Failure Session Summary).run.run before =
          (.ok summary, after) ∧
        (Program.convert { o with inputs } : ExceptT Failure Session Summary).run.run before =
          (.ok summary, after') ∧
        after.workspace.SameFiles after'.workspace := by
  obtain ⟨w, read, read', accepts⟩ : ∃ w : Workspace,
      w.read "a.py".toList = .ok (Text.encode "x".toList) ∧
      w.read "a.py.html".toList = .ok (Text.encode "y".toList) ∧
      w.Accepts "a.py.html.html".toList := by
    refine ⟨{ entries := [(["a.py".toList], .file (Text.encode "x".toList)),
      (["a.py.html".toList], .file (Text.encode "y".toList))] }, by decide, by decide, ?_⟩
    exact ⟨[] ++ ["a.py.html.html".toList], .name (by decide) (by decide) (by decide), by decide⟩
  obtain ⟨place, opens, entry⟩ := Workspace.read_eq_ok.1 read
  obtain ⟨target, opens', entry'⟩ := Workspace.read_eq_ok.1 read'
  obtain rfl : target = besidePlace place := opens.beside opens'
  obtain ⟨lexemes, -, scanned⟩ := Cursor.scan_runs "x".toList
  have disturbs : Disturbs {} w "a.py" "a.py.html" := by
    refine ⟨place, _, ⟨⟨opens, _, opens', by rw [entry']; exact nofun⟩, _, entry, scanned⟩,
      ⟨opens', accepts⟩, ?_⟩
    intro same
    have shown := Text.encode_injective (Entry.file.inj (Option.some.inj (entry'.symm.trans same)))
    have opening : (Rendering.render {} ⟨"x".toList, lexemes⟩).head? = some '<' := by
      rw [Rendering.render, if_neg Bool.false_ne_true, Rendering.contain_eq,
        if_neg Bool.false_ne_true]
      rfl
    exact absurd ((congrArg List.head? shown).trans opening) (by decide)
  refine ⟨{ inputs := ["a.py", "a.py.html"] }, { workspace := w }, by decide, rfl, read, read', ?_⟩
  intro agree
  exact (convert_order_irrelevant_iff _ (by decide) _).1 agree "a.py" (by decide) "a.py.html"
    (by decide) disturbs

end Highlight
