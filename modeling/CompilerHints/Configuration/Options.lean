import CompilerHints.Configuration.Basic

/-!
# Options

The build tool passes options as texts of the form `key=value`. They lay over the settings from
elsewhere, the last one of a key winning. Keys that are not known belong to someone else.

* `parseOption`: a text as a key and a value.
* `Configuration.applyOptions`: settings with options laid over them, validated.
-/

namespace CompilerHints

open Text

/-- A key and a value. -/
structure ConfigurationOption where
  key : String
  value : String
deriving DecidableEq, Repr

/-- The key of the artifact's path. -/
def outputPathKey : String := "compile.command.file.output.path"

/-- The key of the artifact's charset. -/
def charsetKey : String := "compile.command.file.output.charset"

/-- The key of the fragments directory. -/
def fragmentsKey : String := "compile.command.incremental.output"

/-- Reads an option. The first equals sign divides key and value, both are trimmed, and the key is
not blank. -/
def parseOption (raw : String) : Except ConfigurationError ConfigurationOption :=
  let cs := raw.toList
  let key := trim (String.ofList (cs.takeWhile (· ≠ '=')))
  match cs.dropWhile (· ≠ '=') with
  | [] => .error (.malformedOption raw)
  | _ :: value =>
    if key = "" then .error (.malformedOption raw) else .ok ⟨key, trim (String.ofList value)⟩

namespace Configuration

/-- Settings with one option laid over them. -/
def setOption (c : Configuration) (o : ConfigurationOption) :
    Except ConfigurationError Configuration :=
  if o.key = outputPathKey then .ok { c with outputPath := o.value }
  else if o.key = charsetKey then
    match Charset.ofName? o.value with
    | some charset => .ok { c with charset := charset }
    | none => .error (.unsupportedCharset o.value)
  else if o.key = fragmentsKey then .ok { c with fragmentsPath? := some o.value }
  else .ok c

/-- Settings with options laid over them one after the other, up to the first that cannot be. -/
def setOptions (c : Configuration) :
    List ConfigurationOption → Except ConfigurationError Configuration
  | [] => .ok c
  | o :: rest =>
    match c.setOption o with
    | .ok c => c.setOptions rest
    | .error error => .error error

/-- Settings with options laid over them, validated. -/
def applyOptions (c : Configuration) (options : List ConfigurationOption) :
    Except ConfigurationError Configuration :=
  match c.setOptions options with
  | .ok c => c.validate
  | .error error => .error error

end Configuration

end CompilerHints
