import Highlight.Command.Failure

/-!
# Workspaces

A workspace is a tree of files and directories, each at the names that lead to it from the root,
and the directory in it where a run works. A path leads from there, or from the root if it begins
with a slash, through directories to its last name; `.` and `..` stand for the directory at hand
and the one above it.
-/

namespace Highlight

/-- The names that lead from the root of a tree to a file or directory. -/
abbrev Names := List Text

/-- Contents are compared byte by byte. -/
instance decidableEqBytes : DecidableEq ByteArray := ByteArray.decEq

/-- What stands at a place of a tree. -/
inductive Entry where
  | file (content : ByteArray)
  | directory
deriving DecidableEq

/-- A tree of files and directories, and a directory of it to work in. -/
structure Workspace where
  /-- The directory to work in. -/
  home : Names := []
  /-- All files and directories but the root. -/
  entries : List (Names × Entry) := []
deriving DecidableEq

/-- Why a path cannot be read or written. -/
inductive Fault where
  /-- A name of the path leads to nothing. -/
  | notFound
  /-- The path goes through a file. -/
  | notDirectory
  /-- The path leads to a directory. -/
  | isDirectory
  /-- A name of the path, or the path, is too long. -/
  | nameTooLong
  /-- The path holds a zero, which no name can. -/
  | zeroInName
deriving DecidableEq, Repr

namespace Fault

/-- The number of a fault in the system. A path with a zero does not come there. -/
def number? : Fault → Option Nat
  | notFound => some 2
  | notDirectory => some 20
  | isDirectory => some 21
  | nameTooLong => some 36
  | zeroInName => none

/-- The wording of a fault. -/
def wording : Fault → String
  | notFound => "No such file or directory"
  | notDirectory => "Not a directory"
  | isDirectory => "Is a directory"
  | nameTooLong => "File name too long"
  | zeroInName => "file name contained an unexpected NUL byte"

/-- A fault as the system reports it. -/
def failure (f : Fault) : IoFailure :=
  let wording := f.wording
  let cause := match f.number? with
    | some number => s!"{wording} (os error {number})"
    | none => wording
  ⟨if f = notFound then .notFound else .other, cause⟩

end Fault

/-- The longest name in a directory, in bytes. -/
def longestName : Nat := 255

/-- The longest path, in bytes. -/
def longestPath : Nat := 4095

/-- A path, cut at its slashes. -/
structure Path where
  /-- Whether the path starts at the root. -/
  absolute : Bool
  /-- The names of the path. -/
  names : Names
  /-- Whether a slash follows the last name. -/
  slashed : Bool
deriving DecidableEq, Repr

/-- Cuts a path at its slashes. -/
def Path.ofText (t : Text) : Path where
  absolute := t.head? = some '/'
  names := (t.splitOn '/').filter (!·.isEmpty)
  slashed := t.getLast? = some '/'

/-- What a path leads to, as far as its form and its directories tell. -/
inductive Target where
  /-- A directory. -/
  | folder
  /-- A name in a directory, if it stands there. -/
  | name (folder : Names) (last : Text)
deriving DecidableEq, Repr

namespace Workspace

/-- What stands at some names. -/
def entry? (w : Workspace) (names : Names) : Option Entry :=
  if names = [] then some .directory else w.entries.lookup names

/-- Puts an entry at some names, in the place of the one that stands there. -/
def put (w : Workspace) (names : Names) (entry : Entry) : Workspace :=
  { w with entries := (names, entry) :: w.entries.filter (·.1 != names) }

/-- Makes a directory unless something stands there. -/
def makeFolder (w : Workspace) (names : Names) : Workspace :=
  if (w.entry? names).isSome then w else w.put names .directory

/-- Puts an entry where some names lead from a directory, and makes the directories on the way. As
in a path, `.` and `..` stand for the directory at hand and the one above it. -/
def build (w : Workspace) (folder : Names) : Names → Entry → Workspace
  | [], _ => w
  | name :: names, entry =>
    if name = ['.'] then w.build folder names entry
    else if name = ['.', '.'] then w.build folder.dropLast names entry
    else if names = [] then w.put (folder ++ [name]) entry
    else (w.makeFolder (folder ++ [name])).build (folder ++ [name]) names entry

/-- The workspace with given contents of the directory to work in, by their paths from there. -/
def ofEntries (home : Names) (entries : List (Text × Entry)) : Workspace :=
  let empty : Workspace := build { home } [] home .directory
  entries.foldl (fun w (path, entry) => w.build home (Path.ofText path).names entry) empty

/-- Goes from a directory into another by its name. -/
def enter (w : Workspace) (folder : Names) (name : Text) : Except Fault Names :=
  if name = ['.'] then .ok folder
  else if name = ['.', '.'] then .ok folder.dropLast
  else if longestName < name.size then .error .nameTooLong
  else
    match w.entry? (folder ++ [name]) with
    | none => .error .notFound
    | some (.file _) => .error .notDirectory
    | some .directory => .ok (folder ++ [name])

/-- Goes from a directory through others, one name after the other. -/
def enterAll (w : Workspace) (folder : Names) : Names → Except Fault Names
  | [] => .ok folder
  | name :: names =>
    match w.enter folder name with
    | .ok next => w.enterAll next names
    | .error fault => .error fault

/-- Follows a path up to its last name. A path without names, or with a last name that only stands
for a directory, leads to a directory. -/
def follow (w : Workspace) (path : Path) : Except Fault Target :=
  match path.names.getLast? with
  | none => .ok .folder
  | some last =>
    match w.enterAll (if path.absolute then [] else w.home) path.names.dropLast with
    | .ok folder => .ok (if last = ['.'] ∨ last = ['.', '.'] then .folder else .name folder last)
    | .error fault => .error fault

/-- Follows a path that is given as text. An empty path leads to nothing, and a zero can stand in
none. -/
def locate (w : Workspace) (path : Text) : Except Fault Target :=
  if '\x00' ∈ path then .error .zeroInName
  else if path = [] then .error .notFound
  else if longestPath < path.size then .error .nameTooLong
  else w.follow (Path.ofText path)

/-- The content of the file that a path leads to. -/
def read (w : Workspace) (path : Text) : Except Fault ByteArray :=
  match w.locate path with
  | .error fault => .error fault
  | .ok .folder => .error .isDirectory
  | .ok (.name folder last) =>
    if longestName < last.size then .error .nameTooLong
    else
      match w.entry? (folder ++ [last]) with
      | none => .error .notFound
      | some .directory => .error .isDirectory
      | some (.file content) =>
        if (Path.ofText path).slashed then .error .notDirectory else .ok content

/-- Writes the file that a path leads to, or makes it. A slash behind the last name stands for a
directory, whatever the name leads to. -/
def write (w : Workspace) (path : Text) (content : ByteArray) : Except Fault Workspace :=
  match w.locate path with
  | .error fault => .error fault
  | .ok .folder => .error .isDirectory
  | .ok (.name folder last) =>
    if (Path.ofText path).slashed then .error .isDirectory
    else if longestName < last.size then .error .nameTooLong
    else if w.entry? (folder ++ [last]) = some .directory then .error .isDirectory
    else .ok (w.put (folder ++ [last]) (.file content))

/-- The text of some names, with slashes between them. -/
def pathOf (names : Names) : Text := ['/'].intercalate names

/-- The files in the directory to work in that were not in an earlier tree, or had other content
there, by their paths in increasing order. -/
def changesSince (w earlier : Workspace) : List (Text × ByteArray) :=
  let changed := w.entries.filterMap fun (names, entry) =>
    match w.home.isPrefixOf? names, entry with
    | some inner, .file content =>
      if earlier.entry? names = some (.file content) then none else some (pathOf inner, content)
    | _, _ => none
  changed.mergeSort fun a b => (compare a.1 b.1).isLE

end Workspace

end Highlight
