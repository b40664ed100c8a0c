import Highlight.Command.Conversion
import Highlight.Command.Host
import Highlight.Command.Options
import Highlight.Lexis.Listing

/-!
# The program

The first argument chooses a command: a listing of the tokens of a file, the help text, the
version, or else a conversion. One source is converted to standard output or to the named output;
of several, each is converted to a file beside it, and a failure of one does not stop the others.
They may be handled in any order, which a schedule tells; without one they are handled in turn.
-/

namespace Highlight

/-- What the arguments ask for. -/
inductive Command where
  /-- To list the tokens of a file, if one is named. -/
  | tokens (path : Option String)
  /-- To show the help text. -/
  | help
  /-- To show the version. -/
  | version
  /-- To convert as the arguments say. -/
  | convert (args : List String)
deriving DecidableEq, Repr

/-- What the arguments ask for. What follows a command's own arguments does not matter. -/
def Command.ofArgs (args : List String) : Command :=
  match args.head? with
  | none => convert []
  | some word =>
    if word = "tokens" then tokens args.tail.head?
    else if word = "help" ∨ word = "--help" ∨ word = "-h" then help
    else if word = "version" ∨ word = "--version" ∨ word = "-V" then version
    else convert args

/-- The help text. -/
def helpText : String :=
  "pyhl: Python source to tagged HTML\n" ++
  "\n" ++
  "Usage: pyhl [options] [FILE...]\n" ++
  "       pyhl <command> [args]\n" ++
  "\n" ++
  "With no FILE, or FILE is -, read stdin and write stdout.\n" ++
  "With one FILE, write stdout (or the -o path).\n" ++
  "With several, write FILE.html next to each input.\n" ++
  "\n" ++
  "Commands:\n" ++
  "  tokens <file.py>     Print the token stream\n" ++
  "  help                 Show this help message\n" ++
  "  version              Show version information\n" ++
  "\n" ++
  "Options:\n" ++
  "  -n, --line-numbers   Add a line-number column\n" ++
  "  -s, --standalone     Emit a full HTML page with a stylesheet\n" ++
  "  -o, --output <path>  Output file (single input only)\n" ++
  "  --title=<text>       Page title for --standalone\n" ++
  "  --strict             Exit 1 if any scan issue was found\n" ++
  "\n" ++
  "Examples:\n" ++
  "  pyhl app.py > app.html\n" ++
  "  pyhl -n -s app.py -o app.html\n" ++
  "  pyhl src/*.py                   # Writes src/*.py.html\n" ++
  "  cat app.py | pyhl --strict\n" ++
  "\n" ++
  "Set RUST_LOG (e.g. RUST_LOG=pyhl=debug) to enable logging.\n"

/-- The version, as it is shown. -/
def versionText : String := "pyhl 0.1.0\n"

/-- How to ask for a listing. -/
def listingUsage : String := "Usage: pyhl tokens <file.py>\n"

/-- The name of standard input in messages. -/
def stdinLabel : String := "<stdin>"

/-- In which order several inputs are handled: each of them once, by their places in the list. -/
structure Schedule where
  turns : (n : Nat) → List (Fin n)
  perm : ∀ n, (turns n).Perm (List.finRange n)

/-- The inputs are handled as they are listed. -/
def Schedule.inTurn : Schedule := ⟨List.finRange, fun _ => .refl _⟩

namespace Program

variable {m : Type → Type} [Monad m] [Host m]

/-- Writes a line to standard output. -/
def printLine (line : Text) : m Unit := do
  let _ ← Host.print (line ++ ['\n'])

/-- Writes a line that tells of an error to standard error. -/
def warnError (message : String) : m Unit :=
  Host.warn ("error: ".toList ++ message.toList ++ ['\n'])

/-- The text of a file. -/
def readFile (path : String) : ExceptT Failure m Text := do
  match ← (Host.readBytes path : m _) with
  | .error cause => throw (.ofRead path cause)
  | .ok bytes =>
    match Text.decode? bytes with
    | none => throw (.ofRead path .notText)
    | some text => return text

/-- The text that comes from standard input. -/
def readInput : ExceptT Failure m Text := do
  match ← (Host.readStdin : m _) with
  | .error cause => throw (.stdin cause)
  | .ok bytes =>
    match Text.decode? bytes with
    | none => throw (.stdin .notText)
    | some text => return text

/-- Writes the text of a file. -/
def writeFile (path : String) (text : Text) : ExceptT Failure m Unit := do
  match ← (Host.writeText path text : m _) with
  | .error cause => throw (.write path cause)
  | .ok _ => return

/-- Writes the result of a conversion to standard output. -/
def writeOutput (text : Text) : ExceptT Failure m Unit := do
  match ← (Host.print text : m _) with
  | .error cause => throw (.stdout cause)
  | .ok _ => return

/-- The line that reports an issue. -/
def issueLine (label : String) (issue : Issue) : Text :=
  label.toList ++ ": ".toList ++ issue.describe ++ ['\n']

/-- Converts a source. A strict run reports each issue. -/
def convertSource (o : Options) (label : String) (source : Text) :
    ExceptT Failure m Conversion := do
  let conversion ← ExceptT.mk (pure (Conversion.ofSource label source o.rendering))
  if o.strict then
    conversion.issues.forM fun issue => (Host.warn (issueLine label issue) : m Unit)
  return conversion

/-- Converts the only source of a run. -/
def convertOne (o : Options) (label : String) (source : Text) : ExceptT Failure m Summary := do
  let conversion ← convertSource o label source
  match o.output with
  | some path => writeFile path conversion.html
  | none => writeOutput conversion.html
  return { converted := 1, issues := conversion.issues.length }

/-- Converts one of several inputs to a file beside it, and gives the number of issues. -/
def convertBeside (o : Options) (input : String) : ExceptT Failure m Nat := do
  let source ← readFile input
  let conversion ← convertSource o input source
  let target := besideInput input
  writeFile target conversion.html
  (printLine ("Wrote: ".toList ++ target.toList) : m Unit)
  return conversion.issues.length

/-- Converts several inputs, one after the other as they are scheduled. What became of them is told
in the order of the inputs. -/
def convertEach (o : Options) (inputs : List String) (schedule : Schedule := .inTurn) :
    m (List (Except Failure Nat)) := do
  let handled ← (schedule.turns inputs.length).mapM fun i => do
    let outcome ← (convertBeside o (inputs.get i)).run
    return (i, outcome)
  return (List.finRange inputs.length).filterMap fun i => List.lookup i handled

/-- Converts several inputs and then reports the failures. -/
def convertAll (o : Options) (schedule : Schedule := .inTurn) : m Summary := do
  let outcomes ← convertEach o o.inputs schedule
  outcomes.forM fun
    | .ok _ => pure ()
    | .error failure => warnError failure.message
  return .ofOutcomes outcomes

/-- Converts what the options name. -/
def convert (o : Options) (schedule : Schedule := .inTurn) : ExceptT Failure m Summary := do
  if o.readsStdin then
    let source ← readInput
    convertOne o stdinLabel source
  else
    match o.inputs with
    | [input] =>
      let source ← readFile input
      convertOne o input source
    | _ => (convertAll o schedule : m Summary)

/-- Lists the tokens of a file. -/
def listTokens (path : String) : ExceptT Failure m Unit := do
  let source ← readFile path
  match scan source with
  | .error cause => throw (.scan path cause)
  | .ok s =>
    let _ ← (Host.print (s.listing path) : m _)

/-- Runs a conversion and gives the exit status. -/
def runConversion (o : Options) (schedule : Schedule := .inTurn) : m UInt32 := do
  match ← (convert o schedule).run with
  | .error failure =>
    warnError failure.message
    return 1
  | .ok summary =>
    if 1 < o.inputs.length then printLine summary.describe
    return if summary.isFailure o.strict then 1 else 0

/-- Runs the program and gives the exit status. -/
def run (args : List String) (schedule : Schedule := .inTurn) : m UInt32 := do
  match Command.ofArgs args with
  | .tokens none =>
    Host.warn listingUsage.toList
    return 1
  | .tokens (some path) =>
    match ← (listTokens path).run with
    | .error failure =>
      warnError failure.message
      return 1
    | .ok _ => return 0
  | .help =>
    let _ ← Host.print helpText.toList
    return 0
  | .version =>
    let _ ← Host.print versionText.toList
    return 0
  | .convert args =>
    match Options.ofArgs args with
    | .error e =>
      warnError e.message
      Host.warn ['\n']
      let _ ← Host.print helpText.toList
      return 1
    | .ok o => runConversion o schedule

end Program

end Highlight
