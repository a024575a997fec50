import CompilerHints.Configuration.Basic
import CompilerHints.FileSystem
import CompilerHints.Toml.Document

/-!
# Settings from a document

Settings can be written in a TOML document. Every key has to be known, and every section may be left
out.

* `Configuration.ofDocument`: the settings of a document, validated.
* `Configuration.loadFile`, `Configuration.load`: the settings of a file, and those of a directory,
  which need not hold such a file.
-/

namespace CompilerHints

namespace Toml

/-- The values of known keys among members, which must have no other keys. -/
def memberFields? (known : List String) (members : List (String × Toml)) :
    Option (List (Option Toml)) :=
  if members.all fun member => known.contains member.1 then
    some (known.map fun key => members.lookup key)
  else none

/-- Values as those of known keys in order. Further ones do not matter. -/
def itemFields (known : List String) (items : List Toml) : List (Option Toml) :=
  (List.range known.length).map fun i => items[i]?

/-- The values of known keys, of a table or of an array of values in order. -/
def fields? (known : List String) : Toml → Option (List (Option Toml))
  | table _ members => memberFields? known members
  | array items => some (itemFields known items)
  | tables items => some (itemFields known items)
  | _ => none

/-- The text of a string. -/
def text? : Toml → Option String
  | string text => some text
  | _ => none

end Toml

namespace Configuration

/-- The name of the file with the settings of a directory. -/
def fileName : String := "hintc.toml"

/-- Reads the section about the artifact. -/
def readOutput? (c : Configuration) (value : Toml) : Option Configuration := do
  let [path?, charset?] ← value.fields? ["path", "charset"] | none
  let c ←
    match path? with
    | some path => path.text?.map fun text => { c with outputPath := text }
    | none => some c
  match charset? with
  | some charset =>
    (charset.text?.bind Charset.ofName?).map fun charset => { c with charset := charset }
  | none => some c

/-- Reads the section about fragments. -/
def readIncremental? (c : Configuration) (value : Toml) : Option Configuration := do
  let [some dir] ← value.fields? ["fragments_dir"] | none
  dir.text?.map fun text => { c with fragmentsPath? := some text }

/-- The settings that the members of a document give. -/
def ofMembers? (members : List (String × Toml)) : Option Configuration := do
  let [output?, incremental?] ← Toml.memberFields? ["output", "incremental"] members | none
  let c : Configuration := {}
  let c ← output?.elim (some c) c.readOutput?
  incremental?.elim (some c) c.readIncremental?

/-- The settings of a document, validated. -/
def ofDocument (text : String) : Except ConfigurationError Configuration :=
  match (Toml.parse? text).bind ofMembers? with
  | some c => c.validate
  | none => .error .malformedDocument

/-- The settings of a file. -/
def loadFile (path : Path) (fs : FileSystem) : Except ConfigurationError Configuration :=
  match fs.readText? path with
  | some text => ofDocument text
  | none => .error .unreadable

/-- The settings of a directory: those of its file, or the defaults when there is no such file. -/
def load (dir : Path) (fs : FileSystem) : Except ConfigurationError Configuration :=
  let path := dir.join ⟨fileName⟩
  if fs.isFile path then loadFile path fs else .ok {}

end Configuration

end CompilerHints
