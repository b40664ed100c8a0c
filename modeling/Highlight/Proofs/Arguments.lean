import Highlight.Command.Options
import Highlight.Proofs.Boundary
import Mathlib.Data.List.Induction

/-!
# The grammar of arguments

Arguments are read from the left as settings, each of which one or two arguments spell (`Spells`).
The reading goes on to the end, or to a `--` behind which all are inputs (`Reads`), or it stops at an
argument that begins no setting (`Stuck`). `Options.ofArgs` does what this grammar says
(`ofArgs_eq_iff_denotes`): a step of it takes one setting (`Spells.add`), so a run takes all of them.

The options that it gives are those that agree with themselves, `Options.Consistent`, and each of
these can be written as arguments.
-/

namespace Highlight

/-! ### Settings -/

/-- What arguments ask for. -/
inductive Setting where
  | input (name : String)
  | lineNumbers
  | standalone
  | strict
  | output (path : String)
  | title (text : String)
deriving DecidableEq, Repr

namespace Setting

/-- The input that a setting adds. -/
def input? : Setting → Option String
  | input name => some name
  | _ => none

/-- The output that a setting chooses. -/
def output? : Setting → Option String
  | output path => some path
  | _ => none

/-- The title that a setting chooses. -/
def title? : Setting → Option String
  | title text => some text
  | _ => none

end Setting

/-- How a setting is spelled by arguments. -/
inductive Spells : List String → Setting → Prop where
  | input {name} :
    name = "-" ∨ name.toList.head? ≠ some '-' →
    Spells [name] (.input name)
  | lineNumbers {flag} :
    flag ∈ ["-n", "--line-numbers"] →
    Spells [flag] .lineNumbers
  | standalone {flag} :
    flag ∈ ["-s", "--standalone"] →
    Spells [flag] .standalone
  | strict :
    Spells ["--strict"] .strict
  | output {option} path :
    option ∈ ["-o", "--output"] →
    Spells [option, path] (.output path)
  | outputIs path :
    Spells ["--output=" ++ path] (.output path)
  | titleIs title :
    Spells ["--title=" ++ title] (.title title)

/-- Arguments that are read as settings to their end. -/
inductive Reads : List String → List Setting → Prop where
  | nil :
    Reads [] []
  | inputs names :
    Reads ("--" :: names) (names.map .input)
  | cons {front args setting settings} :
    Spells front setting →
    Reads args settings →
    Reads (front ++ args) (setting :: settings)

/-- Arguments that are read as settings up to one that begins none, and what is wrong there. -/
inductive Stuck : List String → OptionError → Prop where
  | missing {option} :
    option ∈ ["-o", "--output"] →
    Stuck [option] (.missingValue option)
  | unknown {arg args} :
    arg ≠ "--" →
    (∀ more setting, ¬Spells (arg :: more) setting) →
    Stuck (arg :: args) (.unknownOption arg)
  | cons {front args setting e} :
    Spells front setting →
    Stuck args e →
    Stuck (front ++ args) e

namespace Options

/-- The options that settings make: all inputs in order, and of outputs and titles the last. -/
def ofSettings (settings : List Setting) : Options where
  inputs := settings.filterMap Setting.input?
  output := (settings.filterMap Setting.output?).getLast?
  strict := settings.contains .strict
  rendering :=
    { lineNumbers := settings.contains .lineNumbers
      standalone := settings.contains .standalone
      title := (settings.filterMap Setting.title?).getLast? }

/-- Several inputs go with neither one output nor standard input. -/
def Consistent (o : Options) : Prop := 2 ≤ o.inputs.length → o.output = none ∧ "-" ∉ o.inputs

end Options

/-- What arguments mean. -/
inductive Denotes (args : List String) : Except OptionError Options → Prop where
  | options {settings} :
    Reads args settings →
    (Options.ofSettings settings).Consistent →
    Denotes args (.ok (Options.ofSettings settings))
  | output {settings path} :
    Reads args settings →
    2 ≤ (Options.ofSettings settings).inputs.length →
    (Options.ofSettings settings).output = some path →
    Denotes args (.error .outputWithManyInputs)
  | stdin {settings} :
    Reads args settings →
    2 ≤ (Options.ofSettings settings).inputs.length →
    (Options.ofSettings settings).output = none →
    "-" ∈ (Options.ofSettings settings).inputs →
    Denotes args (.error .stdinWithManyInputs)
  | stuck {e} :
    Stuck args e →
    Denotes args (.error e)

/-! ### Single arguments -/

namespace Argument

/-- What an argument is that means something. -/
def Fits (arg : String) : Argument → Prop
  | input => arg = "-" ∨ arg.toList.head? ≠ some '-'
  | endOfOptions => arg = "--"
  | lineNumbers => arg ∈ ["-n", "--line-numbers"]
  | standalone => arg ∈ ["-s", "--standalone"]
  | strict => arg = "--strict"
  | output => arg ∈ ["-o", "--output"]
  | outputIs path => arg = "--output=" ++ path
  | titleIs title => arg = "--title=" ++ title
  | unknown => False

/-- The setting that an argument is by itself. -/
def setting? (arg : String) : Argument → Option Setting
  | input => some (.input arg)
  | lineNumbers => some .lineNumbers
  | standalone => some .standalone
  | strict => some .strict
  | outputIs path => some (.output path)
  | titleIs title => some (.title title)
  | endOfOptions | output | unknown => none

/-- The value of an argument is what stands behind the name. -/
lemma valueOf?_eq_some {name arg value : String} :
    valueOf? name arg = some value ↔ arg = name ++ value := by
  rw [valueOf?, Option.map_eq_some_iff]
  constructor
  · rintro ⟨rest, e, rfl⟩
    rw [← String.toList_inj, String.toList_append, String.toList_ofList]
    exact Text.isPrefixOf?_eq_some.1 e
  · rintro rfl
    refine ⟨value.toList, ?_, String.ofList_toList⟩
    rw [String.toList_append]
    exact Text.isPrefixOf?_eq_some.2 rfl

/-- An argument that means something is what means that. -/
lemma fits_of_ofString {arg : String} {a : Argument} (means : ofString arg = a) (known : a ≠ unknown) :
    Fits arg a := by
  subst means
  revert known
  unfold ofString
  split
  · exact fun _ => ‹_›
  split
  · exact fun _ => ‹_›
  split
  · next h => simpa [Fits] using h
  split
  · next h => simpa [Fits] using h
  split
  · exact fun _ => ‹_›
  split
  · next h => simpa [Fits] using h
  split
  · next h => exact fun _ => valueOf?_eq_some.1 h
  · next h => exact fun _ => valueOf?_eq_some.1 h
  · exact fun known => absurd rfl known

/-- An option that holds an equals sign can only be one with its value. -/
lemma ofString_of_equals {arg : String} (dash : arg.toList.head? = some '-')
    (equals : '=' ∈ arg.toList) :
    (∀ path, valueOf? "--output=" arg = some path → ofString arg = outputIs path) ∧
      ∀ title, valueOf? "--output=" arg = none → valueOf? "--title=" arg = some title →
        ofString arg = titleIs title := by
  have ne : ∀ name : String, '=' ∉ name.toList → arg ≠ name := by
    rintro name free rfl
    exact free equals
  have no_input : ¬(arg = "-" ∨ arg.toList.head? ≠ some '-') :=
    not_or.2 ⟨ne "-" (by decide), not_not.2 dash⟩
  have no_end := ne "--" (by decide)
  have no_numbers : ¬(arg = "-n" ∨ arg = "--line-numbers") :=
    not_or.2 ⟨ne "-n" (by decide), ne "--line-numbers" (by decide)⟩
  have no_standalone : ¬(arg = "-s" ∨ arg = "--standalone") :=
    not_or.2 ⟨ne "-s" (by decide), ne "--standalone" (by decide)⟩
  have no_strict := ne "--strict" (by decide)
  have no_output : ¬(arg = "-o" ∨ arg = "--output") :=
    not_or.2 ⟨ne "-o" (by decide), ne "--output" (by decide)⟩
  unfold ofString
  rw [if_neg no_input, if_neg no_end, if_neg no_numbers, if_neg no_standalone, if_neg no_strict,
    if_neg no_output]
  constructor
  · intro path value
    rw [value]
  · intro title none value
    rw [none, value]

/-- An argument means what it is. -/
lemma ofString_of_fits {arg : String} {a : Argument} (fits : Fits arg a) : ofString arg = a := by
  cases a with
  | input => exact if_pos fits
  | endOfOptions =>
    cases fits
    rfl
  | lineNumbers =>
    have all : ∀ name ∈ ["-n", "--line-numbers"], ofString name = lineNumbers := by decide
    exact all arg fits
  | standalone =>
    have all : ∀ name ∈ ["-s", "--standalone"], ofString name = standalone := by decide
    exact all arg fits
  | strict =>
    cases fits
    rfl
  | output =>
    have all : ∀ name ∈ ["-o", "--output"], ofString name = output := by decide
    exact all arg fits
  | outputIs path =>
    cases fits
    have value : valueOf? "--output=" ("--output=" ++ path) = some path := valueOf?_eq_some.2 rfl
    exact (ofString_of_equals (by simp) (by simp)).1 path value
  | titleIs title =>
    cases fits
    have value : valueOf? "--title=" ("--title=" ++ title) = some title := valueOf?_eq_some.2 rfl
    have none : valueOf? "--output=" ("--title=" ++ title) = none := by
      rw [Option.eq_none_iff_forall_ne_some]
      intro path value
      have e := valueOf?_eq_some.1 value
      simp [← String.toList_inj] at e
    exact (ofString_of_equals (by simp) (by simp)).2 title none value
  | unknown => cases fits

/-- An argument that means something ends the options or begins a setting. -/
lemma Fits.begins {arg : String} {a : Argument} (fits : Fits arg a) :
    arg = "--" ∨ ∃ more setting, Spells (arg :: more) setting := by
  cases a with
  | input => exact .inr ⟨_, _, .input fits⟩
  | endOfOptions => exact .inl fits
  | lineNumbers => exact .inr ⟨_, _, .lineNumbers fits⟩
  | standalone => exact .inr ⟨_, _, .standalone fits⟩
  | strict =>
    cases fits
    exact .inr ⟨_, _, .strict⟩
  | output => exact .inr ⟨_, _, .output "" fits⟩
  | outputIs path =>
    cases fits
    exact .inr ⟨_, _, .outputIs path⟩
  | titleIs title =>
    cases fits
    exact .inr ⟨_, _, .titleIs title⟩
  | unknown => cases fits

/-- An argument that begins a setting is of one of the shapes. -/
lemma exists_fits_of_spells {arg : String} {more : List String} {setting : Setting}
    (spells : Spells (arg :: more) setting) : ∃ a, Fits arg a := by
  cases spells with
  | input h => exact ⟨.input, h⟩
  | lineNumbers h => exact ⟨.lineNumbers, h⟩
  | standalone h => exact ⟨.standalone, h⟩
  | strict => exact ⟨.strict, rfl⟩
  | output path h => exact ⟨.output, h⟩
  | outputIs path => exact ⟨.outputIs path, rfl⟩
  | titleIs title => exact ⟨.titleIs title, rfl⟩

/-- An argument means nothing if it neither ends the options nor begins a setting. -/
lemma ofString_eq_unknown {arg : String} :
    ofString arg = unknown ↔ arg ≠ "--" ∧ ∀ more setting, ¬Spells (arg :: more) setting := by
  constructor
  · intro means
    have none : ∀ a, ¬Fits arg a := by
      intro a fits
      obtain rfl : a = unknown := (ofString_of_fits fits).symm.trans means
      exact fits
    refine ⟨fun e => none endOfOptions e, ?_⟩
    intro more setting spells
    obtain ⟨a, fits⟩ := exists_fits_of_spells spells
    exact none a fits
  · rintro ⟨ne, none⟩
    by_contra known
    rcases (fits_of_ofString rfl known).begins with e | ⟨more, setting, spells⟩
    · exact ne e
    · exact none more setting spells

end Argument

/-! ### Steps and runs -/

namespace Options

/-- Options with one more setting. -/
def set (o : Options) : Setting → Options
  | .input name => { o with inputs := o.inputs ++ [name] }
  | .lineNumbers => { o with rendering := { o.rendering with lineNumbers := true } }
  | .standalone => { o with rendering := { o.rendering with standalone := true } }
  | .strict => { o with strict := true }
  | .output path => { o with output := some path }
  | .title text => { o with rendering := { o.rendering with title := some text } }

/-- An argument that is a setting by itself is taken alone. -/
lemma add_of_setting? {arg : String} {a : Argument} {setting : Setting} (fits : Argument.Fits arg a)
    (alone : Argument.setting? arg a = some setting) (o : Options) (args : List String) :
    o.add (arg :: args) = (o.set setting).add args := by
  rw [add.eq_def]
  simp only [Argument.ofString_of_fits fits]
  cases a with
  | endOfOptions => cases alone
  | output => cases alone
  | unknown => cases alone
  | _ =>
    cases alone
    rfl

end Options

/-- A step takes one setting. -/
lemma Spells.add {front : List String} {setting : Setting} (spells : Spells front setting)
    (o : Options) (args : List String) : o.add (front ++ args) = (o.set setting).add args := by
  cases spells with
  | input h => exact Options.add_of_setting? (a := .input) h rfl o args
  | lineNumbers h => exact Options.add_of_setting? (a := .lineNumbers) h rfl o args
  | standalone h => exact Options.add_of_setting? (a := .standalone) h rfl o args
  | strict => exact Options.add_of_setting? (a := .strict) rfl rfl o args
  | output path h =>
    have means := Argument.ofString_of_fits (a := .output) h
    rw [List.cons_append, List.singleton_append, Options.add.eq_def]
    simp only [means]
    rfl
  | outputIs path => exact Options.add_of_setting? (a := .outputIs path) rfl rfl o args
  | titleIs title => exact Options.add_of_setting? (a := .titleIs title) rfl rfl o args

/-- All arguments behind two dashes are inputs. -/
lemma Options.add_inputs (o : Options) (names : List String) :
    o.add ("--" :: names) = .ok { o with inputs := o.inputs ++ names } := by
  have means := Argument.ofString_of_fits (a := .endOfOptions) rfl
  rw [Options.add.eq_def]
  simp only [means]

/-- Inputs are added behind those before. -/
lemma Options.foldl_set_inputs (names : List String) (o : Options) :
    (names.map Setting.input).foldl set o = { o with inputs := o.inputs ++ names } := by
  induction names generalizing o with
  | nil => simp
  | cons name names ih => simp [ih, set]

/-- A run takes all settings. -/
lemma Reads.add {args : List String} {settings : List Setting} (reads : Reads args settings)
    (o : Options) : o.add args = .ok (settings.foldl Options.set o) := by
  induction reads generalizing o with
  | nil => rfl
  | inputs names => rw [Options.add_inputs, Options.foldl_set_inputs]
  | cons spells _ ih => rw [spells.add, ih, List.foldl_cons]

/-- A run that gets stuck says what is wrong there. -/
lemma Stuck.add {args : List String} {e : OptionError} (stuck : Stuck args e) (o : Options) :
    o.add args = .error e := by
  induction stuck generalizing o with
  | missing h =>
    have means := Argument.ofString_of_fits (a := .output) h
    rw [Options.add.eq_def]
    simp only [means]
  | @unknown arg args ne none =>
    have means := Argument.ofString_eq_unknown.2 ⟨ne, none⟩
    rw [Options.add.eq_def]
    simp only [means]
  | cons spells _ ih => rw [spells.add, ih]

/-- Behind a setting the arguments go on as they do alone. -/
lemma Spells.reads_or_stuck {front args : List String} {setting : Setting}
    (spells : Spells front setting) (h : (∃ settings, Reads args settings) ∨ ∃ e, Stuck args e) :
    (∃ settings, Reads (front ++ args) settings) ∨ ∃ e, Stuck (front ++ args) e := by
  rcases h with ⟨settings, reads⟩ | ⟨e, stuck⟩
  · exact .inl ⟨_, .cons spells reads⟩
  · exact .inr ⟨e, .cons spells stuck⟩

/-- Arguments are read to their end or get stuck. -/
lemma reads_or_stuck (args : List String) :
    (∃ settings, Reads args settings) ∨ ∃ e, Stuck args e := by
  -- the cases are those of the reading itself, whatever options it adds to
  obtain ⟨o⟩ : Nonempty Options := ⟨{}⟩
  fun_induction Options.add o args with
  | case1 => exact .inl ⟨[], .nil⟩
  | case2 o arg args means ih =>
    have fits := Argument.fits_of_ofString means (by decide)
    exact (Spells.input fits).reads_or_stuck ih
  | case3 o arg args means =>
    cases Argument.fits_of_ofString means (by decide)
    exact .inl ⟨_, .inputs args⟩
  | case4 o arg args means ih =>
    have fits := Argument.fits_of_ofString means (by decide)
    exact (Spells.lineNumbers fits).reads_or_stuck ih
  | case5 o arg args means ih =>
    have fits := Argument.fits_of_ofString means (by decide)
    exact (Spells.standalone fits).reads_or_stuck ih
  | case6 o arg args means ih =>
    cases Argument.fits_of_ofString means (by decide)
    exact Spells.strict.reads_or_stuck ih
  | case7 o arg means =>
    have fits := Argument.fits_of_ofString means (by decide)
    exact .inr ⟨_, .missing fits⟩
  | case8 o arg means path args ih =>
    have fits := Argument.fits_of_ofString means (by decide)
    exact (Spells.output path fits).reads_or_stuck ih
  | case9 o arg args path means ih =>
    cases Argument.fits_of_ofString means (by simp)
    exact (Spells.outputIs path).reads_or_stuck ih
  | case10 o arg args title means ih =>
    cases Argument.fits_of_ofString means (by simp)
    exact (Spells.titleIs title).reads_or_stuck ih
  | case11 o arg args means =>
    obtain ⟨ne, none⟩ := Argument.ofString_eq_unknown.1 means
    exact .inr ⟨_, .unknown ne none⟩

namespace Options

/-- One more setting behind others. -/
lemma ofSettings_concat (settings : List Setting) (setting : Setting) :
    ofSettings (settings ++ [setting]) = (ofSettings settings).set setting := by
  cases setting <;> simp [ofSettings, set, Setting.input?, Setting.output?, Setting.title?,
    List.filterMap_cons, -List.getLast?_filterMap]

/-- To set the settings one by one is to collect them. -/
lemma foldl_set (settings : List Setting) : settings.foldl set {} = ofSettings settings := by
  induction settings using List.reverseRecOn with
  | nil => rfl
  | append_singleton settings setting ih =>
    rw [List.foldl_append, ih, ofSettings_concat, List.foldl_cons, List.foldl_nil]

/-- Consistent options pass. -/
lemma check_of_consistent {o : Options} (consistent : o.Consistent) : o.check = .ok o := by
  unfold check
  split
  · next many =>
    obtain ⟨none, free⟩ := consistent many
    rw [none, if_neg (by simp), if_neg free]
  · rfl

/-- Several inputs and an output do not go together. -/
lemma check_of_output {o : Options} {path : String} (many : 2 ≤ o.inputs.length)
    (output : o.output = some path) : o.check = .error .outputWithManyInputs := by
  have many : 1 < o.inputs.length := many
  rw [check, if_pos many, output, Option.isSome_some, if_pos rfl]

/-- Several inputs and standard input do not go together. -/
lemma check_of_stdin {o : Options} (many : 2 ≤ o.inputs.length) (none : o.output = none)
    (stdin : "-" ∈ o.inputs) : o.check = .error .stdinWithManyInputs := by
  have many : 1 < o.inputs.length := many
  rw [check, if_pos many, none, if_neg (by simp), if_pos stdin]

/-- Options are consistent, or the check finds one of two faults in them. -/
lemma consistent_or (o : Options) :
    o.Consistent ∨ 2 ≤ o.inputs.length ∧
      ((∃ path, o.output = some path) ∨ o.output = none ∧ "-" ∈ o.inputs) := by
  by_cases many : 2 ≤ o.inputs.length
  · cases output : o.output with
    | some path => exact .inr ⟨many, .inl ⟨path, rfl⟩⟩
    | none =>
      by_cases stdin : "-" ∈ o.inputs
      · exact .inr ⟨many, .inr ⟨rfl, stdin⟩⟩
      · exact .inl fun _ => ⟨output, stdin⟩
  · exact .inl fun many' => absurd many' many

/-- The check lets consistent options pass as they are, and no others. -/
lemma check_eq_ok {o o' : Options} : o.check = .ok o' ↔ o = o' ∧ o.Consistent := by
  constructor
  · intro ok
    rcases o.consistent_or with consistent | ⟨many, ⟨path, output⟩ | ⟨none, stdin⟩⟩
    · rw [check_of_consistent consistent] at ok
      exact ⟨Except.ok.inj ok, consistent⟩
    · rw [check_of_output many output] at ok
      cases ok
    · rw [check_of_stdin many none stdin] at ok
      cases ok
  · rintro ⟨rfl, consistent⟩
    exact check_of_consistent consistent

/-- Arguments that can be read give the options that they set, if these pass. -/
lemma ofArgs_of_reads {args : List String} {settings : List Setting} (reads : Reads args settings) :
    ofArgs args = (ofSettings settings).check := by
  rw [ofArgs, reads.add, foldl_set]

/-- Arguments that cannot be read are refused. -/
lemma ofArgs_of_stuck {args : List String} {e : OptionError} (stuck : Stuck args e) :
    ofArgs args = .error e := by
  rw [ofArgs, stuck.add]

/-- Arguments give what they denote. -/
lemma ofArgs_of_denotes {args : List String} {result : Except OptionError Options}
    (denotes : Denotes args result) : ofArgs args = result := by
  cases denotes with
  | options reads consistent => rw [ofArgs_of_reads reads, check_of_consistent consistent]
  | output reads many output => rw [ofArgs_of_reads reads, check_of_output many output]
  | stdin reads many none stdin => rw [ofArgs_of_reads reads, check_of_stdin many none stdin]
  | stuck stuck => exact ofArgs_of_stuck stuck

/-- All arguments mean something. -/
lemma exists_denotes (args : List String) : ∃ result, Denotes args result := by
  rcases reads_or_stuck args with ⟨settings, reads⟩ | ⟨e, stuck⟩
  · rcases (ofSettings settings).consistent_or with
      consistent | ⟨many, ⟨path, output⟩ | ⟨none, stdin⟩⟩
    · exact ⟨_, .options reads consistent⟩
    · exact ⟨_, .output reads many output⟩
    · exact ⟨_, .stdin reads many none stdin⟩
  · exact ⟨_, .stuck stuck⟩

/-- Arguments give the options, or are refused for the reason, that the grammar says. -/
theorem ofArgs_eq_iff_denotes (args : List String) (result : Except OptionError Options) :
    ofArgs args = result ↔ Denotes args result := by
  constructor
  · rintro rfl
    obtain ⟨result, denotes⟩ := exists_denotes args
    rw [ofArgs_of_denotes denotes]
    exact denotes
  · exact ofArgs_of_denotes

/-! ### Written options -/

/-- The names of the flags, which are arguments without a value. -/
def flagNames : List String := ["-n", "--line-numbers", "-s", "--standalone", "--strict"]

/-- Flags, in any order and of any spelling, that set what is set in the options. -/
structure SetBy (o : Options) (flags : List String) : Prop where
  known : ∀ flag ∈ flags, flag ∈ flagNames
  lineNumbers : o.rendering.lineNumbers = (flags.contains "-n" || flags.contains "--line-numbers")
  standalone : o.rendering.standalone = (flags.contains "-s" || flags.contains "--standalone")
  strict : o.strict = flags.contains "--strict"

/-- Options written as arguments, behind the flags given. -/
def written (o : Options) (flags : List String) : List String :=
  flags ++ ((o.output.map ("--output=" ++ ·)).toList ++
    ((o.rendering.title.map ("--title=" ++ ·)).toList ++ "--" :: o.inputs))

/-- All options can be set by flags. -/
lemma exists_setBy (o : Options) : ∃ flags, o.SetBy flags := by
  refine ⟨(if o.rendering.lineNumbers then ["-n"] else []) ++
    ((if o.rendering.standalone then ["-s"] else []) ++ if o.strict then ["--strict"] else []), ?_⟩
  cases numbers : o.rendering.lineNumbers <;> cases standalone : o.rendering.standalone <;>
    cases strict : o.strict <;> exact ⟨by decide, numbers, standalone, strict⟩

/-- Flags set what they stand for and nothing else. -/
lemma add_flags {flags : List String} (args : List String) (o : Options)
    (known : ∀ flag ∈ flags, flag ∈ flagNames) :
    o.add (flags ++ args) = ({ o with
      strict := o.strict || flags.contains "--strict"
      rendering := { o.rendering with
        lineNumbers := o.rendering.lineNumbers ||
          (flags.contains "-n" || flags.contains "--line-numbers")
        standalone := o.rendering.standalone ||
          (flags.contains "-s" || flags.contains "--standalone") } } : Options).add args := by
  induction flags generalizing o with
  | nil => simp
  | cons flag flags ih =>
    rw [List.forall_mem_cons] at known
    have flag_known := known.1
    simp only [flagNames, List.mem_cons, List.not_mem_nil, or_false] at flag_known
    rw [List.cons_append, ← List.singleton_append]
    rcases flag_known with rfl | rfl | rfl | rfl | rfl
    · rw [(Spells.lineNumbers (by decide)).add, ih _ known.2]
      simp [set]
    · rw [(Spells.lineNumbers (by decide)).add, ih _ known.2]
      simp [set]
    · rw [(Spells.standalone (by decide)).add, ih _ known.2]
      simp [set]
    · rw [(Spells.standalone (by decide)).add, ih _ known.2]
      simp [set]
    · rw [Spells.strict.add, ih _ known.2]
      simp [set]

/-- An output that is written as an argument is chosen. -/
lemma add_output (output : Option String) (args : List String) (o : Options) :
    o.add ((output.map ("--output=" ++ ·)).toList ++ args) =
      { o with output := output.or o.output }.add args := by
  cases output with
  | none => rfl
  | some path => exact (Spells.outputIs path).add o args

/-- A title that is written as an argument is chosen. -/
lemma add_title (title : Option String) (args : List String) (o : Options) :
    o.add ((title.map ("--title=" ++ ·)).toList ++ args) =
      { o with rendering := { o.rendering with title := title.or o.rendering.title } }.add args := by
  cases title with
  | none => rfl
  | some title => exact (Spells.titleIs title).add o args

/-- Written options are read as they were. -/
lemma ofArgs_written {o : Options} {flags : List String} (set : o.SetBy flags) :
    ofArgs (o.written flags) = o.check := by
  have read : add {} (o.written flags) = .ok o := by
    rw [written, add_flags _ _ set.known, add_output, add_title, add_inputs, ← set.lineNumbers,
      ← set.standalone, ← set.strict]
    simp
  rw [ofArgs, read]

/-- The options that arguments give are the consistent ones. Each of them is given by its flags, its
output and title with their names before them, and its inputs behind `--`, whatever the output, the
title and the inputs are. -/
theorem exists_ofArgs_iff_consistent (o : Options) :
    ((∃ args, ofArgs args = .ok o) ↔ o.Consistent) ∧
      (∃ flags, o.SetBy flags) ∧
      ∀ flags, o.SetBy flags → (ofArgs (o.written flags) = .ok o ↔ o.Consistent) := by
  have written : ∀ flags, o.SetBy flags → (ofArgs (o.written flags) = .ok o ↔ o.Consistent) := by
    intro flags set
    rw [ofArgs_written set, check_eq_ok, and_iff_right rfl]
  obtain ⟨flags, set⟩ := o.exists_setBy
  refine ⟨⟨?_, ?_⟩, ⟨flags, set⟩, written⟩
  · rintro ⟨args, ok⟩
    rcases reads_or_stuck args with ⟨settings, reads⟩ | ⟨e, stuck⟩
    · rw [ofArgs_of_reads reads, check_eq_ok] at ok
      obtain ⟨rfl, consistent⟩ := ok
      exact consistent
    · rw [ofArgs_of_stuck stuck] at ok
      cases ok
  · intro consistent
    exact ⟨o.written flags, (written flags set).2 consistent⟩

/-- Inputs that look like options, and a title with an equals sign, are read as they were. -/
theorem ofArgs_written_dashes :
    ofArgs ["--strict", "--line-numbers", "--title=a=b", "--", "--", "-n"] =
      .ok ⟨["--", "-n"], none, true, ⟨true, false, some "a=b"⟩⟩ := by
  have set : SetBy ⟨["--", "-n"], none, true, ⟨true, false, some "a=b"⟩⟩
      ["--strict", "--line-numbers"] := ⟨by decide, rfl, rfl, rfl⟩
  exact ((exists_ofArgs_iff_consistent _).2.2 _ set).2 fun _ => ⟨rfl, by decide⟩

end Options

end Highlight
