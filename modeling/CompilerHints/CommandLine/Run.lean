import CompilerHints.CommandLine.Arguments
import CompilerHints.Configuration.Document
import CompilerHints.Configuration.Options
import CompilerHints.Diagnostic.Rendering
import CompilerHints.Interchange.Report
import CompilerHints.Interchange.Round
import CompilerHints.Merge

/-!
# Carrying out commands

* `processCommand`: settings, options and input are read before anything is written; then the
  rounds are processed and reported.
* `mergeCommand`: merges fragments with the charset that is asked for, or that of the settings.
* `runProgram`: the program as a function of its arguments, its standard input and the files.
-/

namespace CompilerHints

/-- What a run of the program leaves behind. -/
structure Completion where
  exitCode : Nat
  stdout : String := ""
  stderr : String := ""
  files : FileSystem
deriving DecidableEq

/-- Why a command is not carried out, or not to its end. -/
inductive CommandError where
  /-- The working directory is not there. -/
  | noWorkingDirectory
  | configuration (cause : ConfigurationError)
  | failure (cause : Failure)
  /-- A path that is no text is to be printed in JSON. -/
  | unprintablePath
deriving DecidableEq, Repr

/-- The wording of the error. -/
def CommandError.message : CommandError → String
  | noWorkingDirectory => "No such file or directory (os error 2)"
  | configuration cause => cause.message
  | failure cause => cause.message
  | unprintablePath => "path contains invalid UTF-8 characters"

/-- A command that ended with an error. -/
def Completion.ofError (error : CommandError) (fs : FileSystem) : Completion where
  exitCode := 1
  stderr := "error: " ++ error.message ++ "\n"
  files := fs

/-- The settings of the file that is asked for, or those of a directory. -/
def GlobalSettings.loadFrom (g : GlobalSettings) (dir : Path) (fs : FileSystem) :
    Except ConfigurationError Configuration :=
  match g.config? with
  | some path => Configuration.loadFile ⟨path⟩ fs
  | none => Configuration.load dir fs

/-- The settings of the file that is asked for, or those of the working directory, which has to be
there in any case. -/
def GlobalSettings.load (g : GlobalSettings) (fs : FileSystem) :
    Except CommandError Configuration :=
  match fs.currentDirectory? with
  | none => .error .noWorkingDirectory
  | some dir => (g.loadFrom dir fs).mapError .configuration

/-- The settings with the options of the command line laid over them. -/
def GlobalSettings.loadWith (g : GlobalSettings) (options : List String) (fs : FileSystem) :
    Except CommandError Configuration := do
  let c ← g.load fs
  let options ← (options.mapM parseOption).mapError .configuration
  (c.applyOptions options).mapError .configuration

/-- The text of an input: a file, or the standard input for a single hyphen. Either may be missing,
or no text. -/
def readInput (input : String) (stdin? : Option String) (fs : FileSystem) :
    Except Failure String :=
  if input = "-" then
    match stdin? with
    | some text => .ok text
    | none => .error (.io ⟨"<stdin>"⟩)
  else
    match fs.readText? ⟨input⟩ with
    | some text => .ok text
    | none => .error (.io ⟨input⟩)

/-- The rounds of an input. -/
def readRounds (input : String) (stdin? : Option String) (fs : FileSystem) :
    Except Failure (List Round) :=
  match readInput input stdin? fs with
  | .error failure => .error failure
  | .ok text =>
    match parseRounds text with
    | .error problem => .error (.input problem)
    | .ok rounds => .ok rounds

/-- Everything a run needs before it starts: its settings and its rounds. -/
def prepare (g : GlobalSettings) (input : String) (options : List String)
    (stdin? : Option String) (fs : FileSystem) : Except CommandError (Configuration × List Round) :=
  match g.loadWith options fs with
  | .error error => .error error
  | .ok c =>
    match readRounds input stdin? fs with
    | .error cause => .error (.failure cause)
    | .ok rounds => .ok (c, rounds)

/-- The two lines that sum up a run. -/
def summary (report : Report) (sink : Sink) : String :=
  let written :=
    match report.output with
    | .artifact path _ =>
      "    Wrote " ++ toString report.lines ++ " line(s) to " ++ path.text ++ "\n"
    | .fragments dir =>
      "    Wrote " ++ toString report.lines ++ " fragment line(s) to " ++ dir.text ++ "\n"
  written ++ "   Result: " ++ toString sink.errors ++ " error(s), " ++ toString sink.warnings ++
    " warning(s)\n"

/-- A run that ended with a report. The exit code tells whether there were errors, unless the report
is to be printed in JSON and the place of the output is no text. -/
def Completion.ofReport (g : GlobalSettings) (color : Bool) (format : ReportFormat)
    (placeIsText : Bool) (report : Report) (s : Session) : Completion :=
  let exitCode := if s.sink.hasErrors then 1 else 0
  match format with
  | .text =>
    let rendered := s.sink.diagnostics.map fun d => d.render color ++ "\n"
    { exitCode := exitCode
      stderr := String.join rendered ++ if g.quiet then "" else summary report s.sink
      files := s.files }
  | .json =>
    if placeIsText then
      { exitCode := exitCode
        stdout := report.document s.sink.diagnostics ++ "\n"
        files := s.files }
    else .ofError .unprintablePath s.files

/-- Processes the rounds of an input. -/
def processCommand (g : GlobalSettings) (color : Bool) (input : String) (root : OutputRoot)
    (options : List String) (format : ReportFormat) (stdin? : Option String) (fs : FileSystem) :
    Completion :=
  match prepare g input options stdin? fs with
  | .error error => .ofError error fs
  | .ok (c, rounds) =>
    match (Session.start (c.resolve root.path) fs).run rounds with
    | (.error failure, s) => .ofError (.failure failure) s.files
    | (.ok report, s) => .ofReport g color format (c.isTextBelow root) report s

/-- The charset that is asked for, or that of the settings. -/
def mergeCharset (g : GlobalSettings) (charset? : Option String) (fs : FileSystem) :
    Except CommandError Charset :=
  match charset? with
  | none => (g.load fs).map Configuration.charset
  | some name =>
    match Charset.ofName? name with
    | some charset => .ok charset
    | none => .error (.configuration (.unsupportedCharset name))

/-- The line that sums up a merge. -/
def mergeSummary (report : MergeReport) : String :=
  "    Merged " ++ toString report.fragments ++ " fragment(s) into " ++ toString report.lines ++
    " line(s) at " ++ report.output.text ++ "\n"

/-- Merges a directory of fragments. -/
def mergeCommand (g : GlobalSettings) (dir output : String) (charset? : Option String)
    (fs : FileSystem) : Completion :=
  match mergeCharset g charset? fs with
  | .error error => .ofError error fs
  | .ok charset =>
    match merge (some ⟨dir⟩) (some ⟨output⟩) charset fs with
    | (.error failure, fs) => .ofError (.failure failure) fs
    | (.ok report, fs) =>
      { exitCode := 0, stderr := if g.quiet then "" else mergeSummary report, files := fs }

/-- Whether output is colored, given whether it goes to a terminal. -/
def ColorChoice.decides (isTerminal : Bool) : ColorChoice → Bool
  | auto => isTerminal
  | always => true
  | never => false

/-- Carries out a command. -/
def Invocation.run (i : Invocation) (isTerminal : Bool) (stdin? : Option String)
    (fs : FileSystem) : Completion :=
  let g := i.settings
  match i.command with
  | .process input root options format =>
    processCommand g (g.color.decides isTerminal) input root options format stdin? fs
  | .merge dir output charset? => mergeCommand g dir output charset? fs

/-- The text behind `--version`. -/
def versionText : String := "hintc 0.1.0\n"

/-- The text behind `--help`. -/
def helpText : String :=
  Text.joinLines
    ["Compiler hint file generator",
     "",
     "Usage: hintc [OPTIONS] process [-o DIR] [-A KEY=VALUE]... [-f text|json] INPUT",
     "       hintc [OPTIONS] merge [--charset NAME] DIR OUTPUT",
     "",
     "Options: [-q] [-v] [--color auto|always|never] [--config FILE]"]

/-- The program as a function of its arguments, the text of its standard input, if that can be read,
and the files. -/
def runProgram (args : List String) (isTerminal : Bool) (stdin? : Option String)
    (fs : FileSystem) : Completion :=
  match parseArguments args with
  | .ok invocation => invocation.run isTerminal stdin? fs
  | .error .version => { exitCode := 0, stdout := versionText, files := fs }
  | .error .help => { exitCode := 0, stdout := helpText, files := fs }
  | .error .usage => { exitCode := 2, stderr := helpText, files := fs }

end CompilerHints
