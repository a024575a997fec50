import CompilerHints.Charset
import CompilerHints.Path

/-!
# Failures

What can end an operation on artifacts, fragments and rounds. A directive that is not allowed is
no failure but a diagnostic.

* `Failure`: the causes.
* `Failure.message`: their wording.
-/

namespace CompilerHints

/-- Why the stream of rounds could not be processed. -/
inductive InputProblem where
  /-- A round came after the final one. -/
  | roundAfterEnd
  /-- The final round ended without a report. -/
  | noReport
  /-- The input is no JSON text that can be read. -/
  | malformed
  /-- The input is a JSON text, but neither a round nor a list of rounds. -/
  | wrongForm
deriving DecidableEq, Repr

/-- What ended an operation. -/
inductive Failure where
  /-- The file system refused an operation on a path. -/
  | io (path : Path)
  /-- No directory was given to merge. -/
  | mergeInputMissing
  /-- What was given to merge is no directory. -/
  | mergeInputNotDirectory (path : Path)
  /-- No output was given for a merge. -/
  | mergeOutputMissing
  /-- The charset of the output lacks a character. -/
  | unmappable (cause : Unencodable)
  /-- The stream of rounds could not be processed. -/
  | input (problem : InputProblem)
deriving DecidableEq, Repr

/-- The wording of an input problem, behind a colon where it has one. -/
def InputProblem.message : InputProblem → String
  | roundAfterEnd => ": round received after processing was over"
  | noReport => ": final round produced no report"
  | malformed => ""
  | wrongForm => ": data did not match any variant of untagged enum RoundInput"

/-- The wording of a failure. -/
def Failure.message : Failure → String
  | io path => "I/O error at " ++ path.text
  | mergeInputMissing => "input directory must not be null"
  | mergeInputNotDirectory path =>
    "directory for incremental fragments '" ++ path.text ++ "' does not exist"
  | mergeOutputMissing => "output file must not be null"
  | unmappable cause =>
    "cannot encode " ++ Text.quoteChar cause.character ++ " in " ++ cause.charset.name
  | input problem => "invalid processor input" ++ problem.message

end CompilerHints
