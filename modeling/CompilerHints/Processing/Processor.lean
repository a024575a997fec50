import CompilerHints.Artifact
import CompilerHints.Collector
import CompilerHints.Configuration.Output
import CompilerHints.Diagnostic.Sink
import CompilerHints.Processing.Verdict

/-!
# Processors

A processor takes rounds until the final one. Each verdict is reported and its line collected; at
the end the artifact is written, unless fragments were written on the way.

* `Session`: a processor, the diagnostics and the file system.
* `Session.process`: one round; the final one gives a report.
* `Session.finish`: the final round without elements.
* `Session.run`: a list of rounds, finished if none of them was the final one.
-/

namespace CompilerHints

/-- Takes rounds and produces an output. -/
structure Processor where
  output : Output
  collector : Collector
  /-- Whether the final round was taken. -/
  finished : Bool := false
deriving DecidableEq

/-- The processor for an output that has taken no round. -/
def Processor.new (output : Output) : Processor where
  output := output
  collector :=
    match output.destination with
    | .artifact _ => .inMemory
    | .fragments dir => .incremental ⟨dir⟩

/-- Where a finished run put its lines. -/
inductive Written where
  /-- An artifact was written, of so many bytes. -/
  | artifact (path : Path) (bytes : Nat)
  /-- Fragments were written to a directory. -/
  | fragments (dir : Path)
deriving DecidableEq, Repr

/-- What a finished run did. -/
structure Report where
  /-- How often a directive was accepted. -/
  accepted : Nat
  /-- How many different lines there are. -/
  lines : Nat
  /-- Whether any scope asked for `quiet`. -/
  quiet : Bool
  output : Written
deriving DecidableEq, Repr

/-- A processor at work: with the diagnostics it emits and the file system it writes to. -/
structure Session where
  processor : Processor
  sink : Sink
  files : FileSystem
deriving DecidableEq

namespace Session

/-- A session in which nothing happened yet. -/
def start (output : Output) (files : FileSystem) : Session where
  processor := .new output
  sink := .empty
  files := files

/-- Adds a diagnostic. -/
def emit (s : Session) (d : Diagnostic) : Session :=
  { s with sink := s.sink.emit d }

/-- Lets the collector take a line. -/
def collect (s : Session) (line : Line) : Except Failure Bool × Session :=
  let (result, collector, files) := s.processor.collector.accept line s.files
  (result, { s with processor := { s.processor with collector := collector }, files := files })

/-- Carries out verdicts in order, up to the first line that cannot be kept. -/
def carryOut (s : Session) : List Verdict → Except Failure Unit × Session
  | [] => (.ok (), s)
  | .rejected error :: rest => (s.emit error).carryOut rest
  | .accepted warning? line :: rest =>
    match (warning?.elim s s.emit).collect line with
    | (.ok _, s) => s.carryOut rest
    | (.error failure, s) => (.error failure, s)

/-- Writes the artifact, if there is to be one, and gives the report. -/
def conclude (s : Session) : Except Failure Report × Session :=
  let collector := s.processor.collector
  let lines := collector.commands.finalize
  let report := Report.mk collector.accepted lines.length collector.commands.quiet
  match s.processor.output.destination with
  | .fragments dir => (.ok (report (.fragments dir)), s)
  | .artifact path =>
    match writeArtifact path lines s.processor.output.charset s.files with
    | (.ok bytes, files) => (.ok (report (.artifact path bytes)), { s with files := files })
    | (.error failure, files) => (.error failure, { s with files := files })

/-- Takes a round. The final one gives a report, and no round may come after it. -/
def process (s : Session) (round : Round) : Except Failure (Option Report) × Session :=
  if s.processor.finished then (.error (.input .roundAfterEnd), s)
  else
    match s.carryOut round.verdicts with
    | (.error failure, s) => (.error failure, s)
    | (.ok (), s) =>
      if round.isFinal then
        match { s with processor := { s.processor with finished := true } }.conclude with
        | (.ok report, s) => (.ok (some report), s)
        | (.error failure, s) => (.error failure, s)
      else (.ok none, s)

/-- Takes the final round without elements. -/
def finish (s : Session) : Except Failure Report × Session :=
  match s.process .over with
  | (.ok (some report), s) => (.ok report, s)
  | (.ok none, s) => (.error (.input .noReport), s)
  | (.error failure, s) => (.error failure, s)

/-- Takes rounds in order. What counts in the end is what the last of them gave; if that was no
report, the run is finished. -/
def runFrom (s : Session) (last : Option Report) : List Round → Except Failure Report × Session
  | [] =>
    match last with
    | some report => (.ok report, s)
    | none => s.finish
  | round :: rest =>
    match s.process round with
    | (.ok report?, s) => s.runFrom report? rest
    | (.error failure, s) => (.error failure, s)

/-- Takes all rounds of an input and finishes the run if they did not. -/
def run (s : Session) (rounds : List Round) : Except Failure Report × Session :=
  s.runFrom none rounds

end Session

end CompilerHints
