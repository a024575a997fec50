import CompilerHints.Charset
import CompilerHints.Path

/-!
# Configuration

Where and how the results of a run are written. Paths are kept as they were given, blanks included;
only their validation looks at them without the blanks at the ends.

* `Configuration`: the settings, with defaults.
* `Configuration.validate`: the first rule that the settings break.
-/

namespace CompilerHints

open Text

/-- The place of the artifact below the output root when nothing else is said. -/
def defaultOutputPath : String := "META-INF/hotspot_compiler"

/-- Where and how the results of a run are written. -/
structure Configuration where
  /-- The path of the artifact below the output root. -/
  outputPath : String := defaultOutputPath
  /-- The charset of the artifact. -/
  charset : Charset := .utf8
  /-- The directory for fragments, below the output root unless absolute; none means that the
  artifact is written at the end. -/
  fragmentsPath? : Option String := none
deriving DecidableEq, Repr

/-- What is wrong with settings or with the way they were given. -/
inductive ConfigurationError where
  /-- The file with the settings cannot be read. -/
  | unreadable
  /-- The file with the settings is no TOML document of the expected form. -/
  | malformedDocument
  /-- An option is not of the form `key=value`. -/
  | malformedOption (raw : String)
  /-- A charset is not known by the given name. -/
  | unsupportedCharset (name : String)
  /-- The output path is blank. -/
  | missingOutputPath
  /-- The fragments directory is blank. -/
  | missingFragmentsPath
  /-- The output path begins at the root. -/
  | absoluteOutputPath (trimmed : String)
  /-- The output path leads to the directory above. -/
  | escapingOutputPath (trimmed : String)
deriving DecidableEq, Repr

/-- The wording of the error. -/
def ConfigurationError.message : ConfigurationError → String
  | unreadable => "failed to read configuration"
  | malformedDocument => "failed to parse configuration"
  | malformedOption raw => "malformed processor option '" ++ raw ++ "', expected key=value"
  | unsupportedCharset name => "unsupported charset '" ++ name ++ "'"
  | missingOutputPath => "missing required field: output.path"
  | missingFragmentsPath => "missing required field: incremental.fragments_dir"
  | absoluteOutputPath trimmed =>
    "validation error: output.path '" ++ trimmed ++ "' must be relative to the class output root"
  | escapingOutputPath trimmed =>
    "validation error: output.path '" ++ trimmed ++ "' must not leave the class output root"

namespace Configuration

/-- Whether fragments are written instead of the artifact. -/
def isIncremental (c : Configuration) : Bool :=
  c.fragmentsPath?.isSome

/-- The first rule that the settings break: the output path is not blank, is relative and does not
lead upwards, and the fragments directory is not blank. -/
def fault? (c : Configuration) : Option ConfigurationError :=
  let path : Path := ⟨trim c.outputPath⟩
  if path.text = "" then some .missingOutputPath
  else if path.isAbsolute then some (.absoluteOutputPath path.text)
  else if path.components.contains .parent then some (.escapingOutputPath path.text)
  else if c.fragmentsPath?.any fun dir => trim dir = "" then some .missingFragmentsPath
  else none

/-- The settings, if they break no rule. -/
def validate (c : Configuration) : Except ConfigurationError Configuration :=
  match c.fault? with
  | some error => .error error
  | none => .ok c

end Configuration

end CompilerHints
