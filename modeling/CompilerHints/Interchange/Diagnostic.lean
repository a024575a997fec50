import CompilerHints.Diagnostic.Basic
import CompilerHints.Json.Fields

/-!
# Diagnostics in JSON

* `Severity.toJson`, `Category.toJson`, `Code.toJson`, `Diagnostic.toJson`: writing.
* `Severity.ofJson?`, `Category.ofJson?`, `Code.ofJson?`, `Diagnostic.ofJson?`: reading.
-/

namespace CompilerHints

/-- Reads one of several words: as a string, or as the only key of an object, with null. -/
def Json.word? {α : Type} (ofWord? : String → Option α) : Json → Option α
  | string word => ofWord? word
  | object [(some word, null)] => ofWord? word
  | _ => none

namespace Severity

/-- The name of a severity in JSON. -/
def name : Severity → String
  | note => "Note"
  | warning => "Warning"
  | error => "Error"

/-- The severity of a given name. -/
def ofName? (name : String) : Option Severity :=
  [note, warning, error].find? fun s => s.name == name

/-- A string with the name. -/
def toJson (s : Severity) : Json :=
  .string s.name

/-- Reads a name. -/
def ofJson? (value : Json) : Option Severity :=
  value.word? ofName?

end Severity

namespace Category

/-- The name of a category in JSON. -/
def name : Category → String
  | error => "Error"
  | warning => "Warning"
  | note => "Note"

/-- The category of a given name. -/
def ofName? (name : String) : Option Category :=
  [error, warning, note].find? fun c => c.name == name

/-- A string with the name. -/
def toJson (c : Category) : Json :=
  .string c.name

/-- Reads a name. -/
def ofJson? (value : Json) : Option Category :=
  value.word? ofName?

end Category

/-- Reads a natural number below 65536. -/
def Json.uint16? : Json → Option UInt16
  | number n => n.toNat?.bind fun k => if k < 65536 then some k.toUInt16 else none
  | _ => none

namespace Code

/-- An object of category and number. -/
def toJson (c : Code) : Json :=
  .ofMembers [("category", c.category.toJson), ("number", .ofNat c.number.toNat)]

/-- Reads a structure of category and number. -/
def ofJson? (value : Json) : Option Code := do
  let [some category, some number] ← value.fields? ["category", "number"] | none
  some { category := ← Category.ofJson? category, number := ← number.uint16? }

end Code

namespace Diagnostic

/-- A list of texts as a member, which is left out when there are none. -/
def textsMember (key : String) (texts : List String) : List (String × Json) :=
  if texts.isEmpty then [] else [(key, .array (texts.map .string))]

/-- An object of the fields. A location that is not given and empty lists are left out. -/
def toJson (d : Diagnostic) : Json :=
  .ofMembers <|
    [("severity", d.severity.toJson), ("code", d.code.toJson), ("message", .string d.message)] ++
      d.location.elim [] (fun l => [("location", .string l)]) ++
      textsMember "notes" d.notes ++ textsMember "help" d.help

/-- Reads a structure of the fields. Location, notes and help may be left out. -/
def ofJson? (value : Json) : Option Diagnostic := do
  let [some severity, some code, some message, location?, notes?, help?] ←
    value.fields? ["severity", "code", "message", "location", "notes", "help"] | none
  let severity ← Severity.ofJson? severity
  let code ← Code.ofJson? code
  let message ← message.text?
  let location ← Json.optional location? Json.text?
  let notes ← Json.orElse notes? Json.texts? []
  let help ← Json.orElse help? Json.texts? []
  some { severity, code, message, location, notes, help }

end Diagnostic

end CompilerHints
