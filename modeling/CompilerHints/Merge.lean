import CompilerHints.Artifact
import CompilerHints.FragmentDirectory

/-!
# Merging

After all build units are done, their fragments become one artifact.

* `merge`: collects a directory of fragments and writes the artifact.
* `MergeReport`: what a merge did.
-/

namespace CompilerHints

/-- What a merge did. -/
structure MergeReport where
  /-- How many fragments were read. -/
  fragments : Nat
  /-- How many lines were written. -/
  lines : Nat
  /-- Whether the artifact begins with `quiet`. -/
  quiet : Bool
  /-- Where the artifact was written. -/
  output : Path
deriving DecidableEq, Repr

/-- Merges a directory of fragments into an artifact. The directory is looked at before the output,
and both before anything is read or written. -/
def merge (dir? output? : Option Path) (charset : Charset) (fs : FileSystem) :
    Except Failure MergeReport × FileSystem :=
  match dir? with
  | none => (.error .mergeInputMissing, fs)
  | some dir =>
    if !fs.isDirectory dir then (.error (.mergeInputNotDirectory dir), fs)
    else
      match output? with
      | none => (.error .mergeOutputMissing, fs)
      | some output =>
        match FragmentDirectory.collect ⟨dir⟩ fs with
        | .error failure => (.error failure, fs)
        | .ok (set, fragments) =>
          match writeArtifact output set.finalize charset fs with
          | (.error failure, fs) => (.error failure, fs)
          | (.ok _, fs) => (.ok ⟨fragments, set.finalize.length, set.quiet, output⟩, fs)

end CompilerHints
