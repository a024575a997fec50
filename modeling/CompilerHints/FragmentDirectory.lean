import CompilerHints.CommandSet
import CompilerHints.Failure
import CompilerHints.FileSystem
import CompilerHints.Text.Lines

/-!
# Fragment directories

In an incremental build every line is kept in a file of its own in one flat directory, so that
build units can share the directory without knowing of each other.

* `FragmentDirectory.write`: keeping a line.
* `FragmentDirectory.clear`: removing all fragments.
* `FragmentDirectory.collect`: the lines of all fragments as one set.
-/

namespace CompilerHints

/-- A directory for fragments, which need not exist yet. -/
structure FragmentDirectory where
  path : Path
deriving DecidableEq, Repr

namespace FragmentDirectory

/-- Where the fragment of a line is kept. -/
def fragmentPath (dir : FragmentDirectory) (line : Line) : Path :=
  dir.path.join ⟨line.fragmentName⟩

/-- Creates the directory if it is missing. -/
def ensure (dir : FragmentDirectory) (fs : FileSystem) : Except Failure Unit × FileSystem :=
  match fs.createDirectories dir.path with
  | (fs, true) => (.ok (), fs)
  | (fs, false) => (.error (.io dir.path), fs)

/-- Keeps a line as a fragment, which holds its text and nothing else; the answer is the path. -/
def write (dir : FragmentDirectory) (line : Line) (fs : FileSystem) :
    Except Failure Path × FileSystem :=
  match dir.ensure fs with
  | (.error failure, fs) => (.error failure, fs)
  | (.ok (), fs) =>
    match fs.write? (dir.fragmentPath line) (Text.utf8Bytes line.text) with
    | some fs => (.ok (dir.fragmentPath line), fs)
    | none => (.error (.io (dir.fragmentPath line)), fs)

/-- Removes the files directly inside the directory; the answer is how many there were. A directory
that does not exist holds none, and a file that no path reaches is passed over. -/
def clear (dir : FragmentDirectory) (fs : FileSystem) : Except Failure Nat × FileSystem :=
  match fs.locate? dir.path with
  | none => (.ok 0, fs)
  | some loc =>
    if fs.isDirectoryAt loc then
      (.ok ((fs.children loc).countP fun child => child.2.isFile && dir.path.reaches child.1),
        fs.removeFiles loc dir.path.reaches)
    else (.error (.io dir.path), fs)

/-- The set of the non-empty lines of a text, together with those of a set. -/
def insertLines (set : CommandSet) (text : String) : CommandSet :=
  ((Text.lines text).filter (· ≠ "")).foldl (fun s line => (s.insertText line).2) set

/-- Adds the lines of the files among some entries to a set and counts the files. A file that no
path reaches is passed over. -/
def gather (dir : FragmentDirectory) :
    List (String × Entry) → CommandSet × Nat → Except Failure (CommandSet × Nat)
  | [], found => .ok found
  | (_, .directory) :: rest, found => dir.gather rest found
  | (name, .file content) :: rest, (set, count) =>
    if dir.path.reaches name then
      match Text.ofUtf8Bytes? content with
      | none => .error (.io (dir.path.join ⟨name⟩))
      | some text => dir.gather rest (insertLines set text, count + 1)
    else dir.gather rest (set, count)

/-- The lines of all fragments as one set, and the number of fragments. Every file that a path
reaches has to be well-formed UTF-8. -/
def collect (dir : FragmentDirectory) (fs : FileSystem) : Except Failure (CommandSet × Nat) :=
  match fs.list? dir.path with
  | none => .error (.io dir.path)
  | some entries => dir.gather entries (.empty, 0)

end FragmentDirectory

end CompilerHints
