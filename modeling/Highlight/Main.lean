import Highlight.Command.Program

/-!
# The command line

The system as a host, and the program on it.
-/

namespace Highlight

/-- A failure of the system, with its number. -/
def IoFailure.numbered (kind : IoKind) (number : UInt32) (details : String) : IoFailure :=
  ⟨kind, s!"{details} (os error {number})"⟩

/-- A failure that the system reported. -/
def IoFailure.ofSystem : IO.Error → IoFailure
  | .noFileOrDirectory _ number details => numbered .notFound number details
  | .permissionDenied _ number details => numbered .permissionDenied number details
  | .unexpectedEof => ⟨.unexpectedEnd, "unexpected end of file"⟩
  | .alreadyExists _ number details | .interrupted _ number details
  | .invalidArgument _ number details | .resourceExhausted _ number details
  | .inappropriateType _ number details | .noSuchThing _ number details
  | .otherError number details | .resourceBusy number details
  | .resourceVanished number details | .unsupportedOperation number details
  | .hardwareFault number details | .unsatisfiedConstraints number details
  | .illegalOperation number details | .protocolError number details
  | .timeExpired number details => numbered .other number details
  | .userError details => ⟨.other, details⟩

/-- What an action of the system gives, or how it failed. -/
def attempt {α : Type} (action : IO α) : IO (Except IoFailure α) := do
  match ← action.toBaseIO with
  | .ok a => return .ok a
  | .error e => return .error (.ofSystem e)

instance : Host IO where
  readBytes path := attempt (IO.FS.withFile path .read (·.readBinToEnd))
  writeText path text := attempt (IO.FS.writeBinFile path text.encode)
  readStdin := attempt do (← IO.getStdin).readBinToEnd
  print text := attempt do
    let stdout ← IO.getStdout
    stdout.putStr (String.ofList text)
    stdout.flush
  warn text := do (← IO.getStderr).putStr (String.ofList text)

end Highlight

/-- Runs the program on the system. -/
def main (args : List String) : IO UInt32 := Highlight.Program.run args
