import Highlight.Lexis.Reading

/-!
# Failures

A conversion fails if its source cannot be read, if the result cannot be written, or if the source
cannot be scanned.
-/

namespace Highlight

/-- What kind of failure the system reported. -/
inductive IoKind where
  | notFound
  | permissionDenied
  | invalidData
  | unexpectedEnd
  | other
deriving DecidableEq, Repr

/-- A failure that the system reported, with its own wording. -/
structure IoFailure where
  kind : IoKind
  cause : String
deriving DecidableEq, Repr

/-- The failure of reading bytes that spell no text. -/
def IoFailure.notText : IoFailure := ⟨.invalidData, "stream did not contain valid UTF-8"⟩

/-- Why a source was not converted. -/
inductive Failure where
  /-- There is no such file. -/
  | notFound (path : String)
  /-- The file may not be read. -/
  | permissionDenied (path : String)
  /-- The file holds no text. -/
  | invalidUtf8 (path : String)
  /-- The file could not be read for another reason. -/
  | read (path : String) (cause : IoFailure)
  /-- The file could not be written. -/
  | write (path : String) (cause : IoFailure)
  /-- Standard input could not be read. -/
  | stdin (cause : IoFailure)
  /-- Standard output could not be written. -/
  | stdout (cause : IoFailure)
  /-- The source could not be scanned. -/
  | scan (path : String) (cause : DelimiterError)
deriving DecidableEq, Repr

namespace Failure

/-- The failure of reading a file, by what the system reported. -/
def ofRead (path : String) (cause : IoFailure) : Failure :=
  match cause.kind with
  | .notFound => notFound path
  | .permissionDenied => permissionDenied path
  | .invalidData => invalidUtf8 path
  | _ => read path cause

/-- The wording of a failure. -/
def message : Failure → String
  | notFound path => s!"cannot find file '{path}'"
  | permissionDenied path => s!"permission denied reading '{path}'"
  | invalidUtf8 path => s!"'{path}' contains invalid UTF-8 data"
  | read path ⟨_, cause⟩ => s!"error reading '{path}': {cause}"
  | write path ⟨_, cause⟩ => s!"error writing '{path}': {cause}"
  | stdin ⟨_, cause⟩ => s!"error reading from stdin: {cause}"
  | stdout ⟨_, cause⟩ => s!"error writing to stdout: {cause}"
  | scan path cause =>
    let cause := String.ofList cause.message
    s!"internal scanner error in '{path}': {cause}"

end Failure

end Highlight
