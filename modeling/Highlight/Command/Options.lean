import Highlight.Markup.Rendering

/-!
# Options

The arguments of a conversion are read from the left. An argument that does not begin with a dash,
or is only a dash, names an input. The others are flags, or options with a value, which is the next
argument or stands behind an equals sign. Behind `--` every argument names an input.
-/

namespace Highlight

/-- Why arguments are refused. -/
inductive OptionError where
  /-- The last argument is an option that takes the next one as its value. -/
  | missingValue (option : String)
  /-- There is no such option. -/
  | unknownOption (option : String)
  /-- One output for several inputs. -/
  | outputWithManyInputs
  /-- Standard input among several inputs. -/
  | stdinWithManyInputs
deriving DecidableEq, Repr

/-- The wording of a refusal. -/
def OptionError.message : OptionError → String
  | missingValue option => s!"option '{option}' requires a value"
  | unknownOption option => s!"unknown option '{option}'"
  | outputWithManyInputs => "-o cannot be used with more than one input file"
  | stdinWithManyInputs => "'-' (stdin) cannot be combined with other input files"

/-- What an argument means where an option may stand. -/
inductive Argument where
  /-- The name of an input. -/
  | input
  /-- The end of the options. -/
  | endOfOptions
  /-- The flag for line numbers. -/
  | lineNumbers
  /-- The flag for a full document. -/
  | standalone
  /-- The flag that makes issues a failure. -/
  | strict
  /-- The option whose value, the next argument, names the output. -/
  | output
  /-- The name of the output. -/
  | outputIs (path : String)
  /-- The title of the document. -/
  | titleIs (title : String)
  /-- No option. -/
  | unknown
deriving DecidableEq, Repr

namespace Argument

/-- The value of an argument that is `name` and its value. -/
def valueOf? (name arg : String) : Option String :=
  (name.toList.isPrefixOf? arg.toList).map String.ofList

/-- What an argument means. -/
def ofString (arg : String) : Argument :=
  if arg = "-" ∨ arg.toList.head? ≠ some '-' then input
  else if arg = "--" then endOfOptions
  else if arg = "-n" ∨ arg = "--line-numbers" then lineNumbers
  else if arg = "-s" ∨ arg = "--standalone" then standalone
  else if arg = "--strict" then strict
  else if arg = "-o" ∨ arg = "--output" then output
  else
    match valueOf? "--output=" arg, valueOf? "--title=" arg with
    | some path, _ => outputIs path
    | none, some title => titleIs title
    | none, none => unknown

end Argument

/-- How a conversion is to be done. -/
structure Options where
  /-- The inputs. None, or a dash alone, means standard input. -/
  inputs : List String := []
  /-- Where a single conversion is written to, if not to standard output. -/
  output : Option String := none
  /-- Whether issues make the run fail. -/
  strict : Bool := false
  /-- How sources are shown. -/
  rendering : Rendering := {}
deriving DecidableEq, Repr

namespace Options

/-- Whether a conversion reads standard input. -/
def readsStdin (o : Options) : Bool :=
  match o.inputs with
  | [] => true
  | [input] => input == "-"
  | _ => false

/-- Adds what the arguments say to options. -/
def add (o : Options) : List String → Except OptionError Options
  | [] => .ok o
  | arg :: args =>
    match Argument.ofString arg with
    | .input => add { o with inputs := o.inputs ++ [arg] } args
    | .endOfOptions => .ok { o with inputs := o.inputs ++ args }
    | .lineNumbers => add { o with rendering := { o.rendering with lineNumbers := true } } args
    | .standalone => add { o with rendering := { o.rendering with standalone := true } } args
    | .strict => add { o with strict := true } args
    | .output =>
      match args with
      | [] => .error (.missingValue arg)
      | path :: args => add { o with output := some path } args
    | .outputIs path => add { o with output := some path } args
    | .titleIs title => add { o with rendering := { o.rendering with title := some title } } args
    | .unknown => .error (.unknownOption arg)

/-- Refuses several inputs with one output, or with standard input among them. -/
def check (o : Options) : Except OptionError Options :=
  if 1 < o.inputs.length then
    if o.output.isSome then .error .outputWithManyInputs
    else if "-" ∈ o.inputs then .error .stdinWithManyInputs
    else .ok o
  else .ok o

/-- The options that arguments give. -/
def ofArgs (args : List String) : Except OptionError Options :=
  match add {} args with
  | .ok o => o.check
  | .error e => .error e

end Options

end Highlight
