import CompilerHints.Processing.Processor

/-!
# Outcomes of complete runs

Rounds are processed with given settings, and what was written is read back.

* `readFragments`: the files of a directory with their texts.
* `Outcome.ofRounds`: a run over rounds, and what it wrote.
-/

namespace CompilerHints

/-- A complete run and what it wrote. -/
structure Outcome where
  report : Report
  /-- The text of the artifact, when one was written. -/
  artifact? : Option String
  /-- The names and texts of the fragments, by name. -/
  fragments : List (String × String)
  sink : Sink
deriving DecidableEq, Repr

/-- The texts of the files among some entries of a directory, without those that no path reaches. -/
def readEntries (dir : Path) : List (String × Entry) → Except Failure (List (String × String))
  | [] => .ok []
  | (_, .directory) :: rest => readEntries dir rest
  | (name, .file content) :: rest =>
    if dir.reaches name then
      match Text.ofUtf8Bytes? content with
      | none => .error (.io (dir.join ⟨name⟩))
      | some text => (readEntries dir rest).map ((name, text) :: ·)
    else readEntries dir rest

/-- The names and texts of the files directly inside a directory, in the byte order of the names.
Where there is no directory there are no files. -/
def readFragments (dir : Path) (fs : FileSystem) : Except Failure (List (String × String)) :=
  match fs.list? dir with
  | none => .ok []
  | some entries =>
    (readEntries dir entries).map fun found =>
      found.mergeSort fun a b => (Text.byteOrder a.1 b.1).isLE

namespace Outcome

/-- Reads back what a session wrote. -/
def readBack (report : Report) (s : Session) : Except Failure Outcome :=
  match s.processor.output.destination with
  | .artifact path =>
    match s.files.readText? path with
    | some text => .ok ⟨report, some text, [], s.sink⟩
    | none => .error (.io path)
  | .fragments dir =>
    (readFragments dir s.files).map fun fragments => ⟨report, none, fragments, s.sink⟩

/-- Runs rounds with settings below a root and reads back what was written. -/
def ofRounds (rounds : List Round) (c : Configuration) (root : Path) (fs : FileSystem) :
    Except Failure Outcome × FileSystem :=
  match (Session.start (c.resolve root) fs).run rounds with
  | (.error failure, s) => (.error failure, s.files)
  | (.ok report, s) => (readBack report s, s.files)

/-- Runs one final round. -/
def ofElements (elements : List Acceptance) (c : Configuration) (root : Path) (fs : FileSystem) :
    Except Failure Outcome × FileSystem :=
  ofRounds [{ elements := elements, isFinal := true }] c root fs

end Outcome

end CompilerHints
