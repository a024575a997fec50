import CompilerHints.Failure
import CompilerHints.FileSystem
import CompilerHints.Text.Lines

/-!
# Artifacts

The command file: one directive on each line, in a chosen charset.

* `renderArtifact`: the text, every line ended by a line feed.
* `writeArtifact`: encoding it and writing it to a path. A character that the charset lacks is
  found before anything is touched.
-/

namespace CompilerHints

/-- The text of an artifact. -/
def renderArtifact (lines : List String) : String :=
  Text.joinLines lines

/-- Writes bytes to a path after creating the directories above it. -/
def writeWithParents (path : Path) (bytes : Text.Bytes) (fs : FileSystem) :
    Except Failure Nat × FileSystem :=
  let parent := path.parent?.getD ⟨""⟩
  match fs.createDirectories parent with
  | (fs, false) => (.error (.io parent), fs)
  | (fs, true) =>
    match fs.write? path bytes with
    | some fs => (.ok bytes.length, fs)
    | none => (.error (.io path), fs)

/-- Writes lines as an artifact; the answer is the number of bytes. -/
def writeArtifact (path : Path) (lines : List String) (charset : Charset) (fs : FileSystem) :
    Except Failure Nat × FileSystem :=
  match charset.encode (renderArtifact lines) with
  | .error cause => (.error (.unmappable cause), fs)
  | .ok bytes => writeWithParents path bytes fs

end CompilerHints
