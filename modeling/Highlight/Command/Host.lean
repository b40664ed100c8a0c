import Highlight.Command.Workspace

/-!
# Hosts

A run reads and writes files and the three standard streams. A host is anything that can do this
for it. A machine is a host that keeps it all as a value: the files, what comes from standard input,
and what went to standard output and to standard error. Its files may be of any kind, and the
platform that they belong to says what can be done with them. A console is a machine whose files are
a workspace.
-/

namespace Highlight

/-- What a run needs to be done for it. -/
class Host (m : Type → Type) where
  /-- The content of a file. -/
  readBytes : String → m (Except IoFailure ByteArray)
  /-- Makes `text` the content of a file. -/
  writeText : String → Text → m (Except IoFailure Unit)
  /-- All that comes from standard input. -/
  readStdin : m (Except IoFailure ByteArray)
  /-- Writes to standard output. -/
  print : Text → m (Except IoFailure Unit)
  /-- Writes to standard error. -/
  warn : Text → m Unit

/-- What a run works on: files of some kind, and all that may keep it from using them and the
standard streams. -/
class Platform (W : Type) where
  /-- The content of a file, or why it cannot be read. -/
  read : W → String → Except IoFailure ByteArray
  /-- Makes some bytes the content of a file. What is left of the files is told also if this
  fails. -/
  write : W → String → ByteArray → Except IoFailure Unit × W
  /-- Why standard input cannot be read, if it cannot. -/
  stdinFailure? : W → Option IoFailure
  /-- How much of a text standard output takes, and why not all of it. -/
  print : W → Text → Except IoFailure Unit × Text

/-- A host as a value. -/
structure Machine (W : Type) where
  workspace : W
  stdin : ByteArray := .empty
  stdout : Text := []
  stderr : Text := []
deriving DecidableEq

/-- A computation that works on a machine. -/
abbrev SessionOn (W : Type) := StateM (Machine W)

namespace Machine

variable {W : Type} [Platform W]

/-- The content of a file. -/
def readBytes (path : String) : SessionOn W (Except IoFailure ByteArray) := fun c =>
  (Platform.read c.workspace path, c)

/-- Writes a file. -/
def writeText (path : String) (text : Text) : SessionOn W (Except IoFailure Unit) := fun c =>
  let (outcome, workspace) := Platform.write c.workspace path text.encode
  (outcome, { c with workspace })

/-- All that comes from standard input. -/
def readStdin : SessionOn W (Except IoFailure ByteArray) := fun c =>
  match Platform.stdinFailure? c.workspace with
  | some cause => (.error cause, c)
  | none => (.ok c.stdin, c)

/-- Writes to standard output as much as it takes. -/
def print (text : Text) : SessionOn W (Except IoFailure Unit) := fun c =>
  let (outcome, printed) := Platform.print c.workspace text
  (outcome, { c with stdout := c.stdout ++ printed })

instance : Host (SessionOn W) where
  readBytes := readBytes
  writeText := writeText
  readStdin := readStdin
  print := print
  warn text := fun c => ((), { c with stderr := c.stderr ++ text })

end Machine

/-- A workspace refuses a path for its own faults, and both standard streams work. -/
instance : Platform Workspace where
  read w path :=
    match w.read path.toList with
    | .ok content => .ok content
    | .error fault => .error fault.failure
  write w path content :=
    match w.write path.toList content with
    | .ok w' => (.ok (), w')
    | .error fault => (.error fault.failure, w)
  stdinFailure? _ := none
  print _ text := (.ok (), text)

/-- A machine that works on a workspace. -/
abbrev Console := Machine Workspace

/-- A computation that works on a console. -/
abbrev Session := SessionOn Workspace

end Highlight
