import CompilerHints.Failure
import CompilerHints.Interchange.Element
import CompilerHints.Json.Reader
import CompilerHints.Processing.Round

/-!
# Directives and rounds in JSON

A plain directive is a string with its keyword, an option an object with its value. Attachments are
read as a whole before they are looked at. An input is a list of rounds, or else one round.

* `Directive.toJson`, `Attachment.toJson`, `Acceptance.toJson`, `Round.toJson`: writing.
* `Directive.ofJson?`, `Attachment.ofJson?`, `Acceptance.ofJson?`, `Round.ofJson?`: reading.
* `parseRounds`: reading an input.
-/

namespace CompilerHints

namespace Directive

/-- A string with the keyword, or an object with the value of an option. -/
def toJson : Directive → Json
  | option value => .ofMembers [("option", .string value)]
  | directive => .string directive.keyword

/-- Reads a keyword, or an object with one member: an option with its value, or another keyword
with null. -/
def ofJson? : Json → Option Directive
  | .string keyword => ofKeyword? keyword
  | .object [(some "option", .string value)] => some (option value)
  | .object [(some keyword, .null)] => ofKeyword? keyword
  | _ => none

end Directive

namespace Attachment

/-- The directive itself, or an object with the values of options. -/
def toJson : Attachment → Json
  | single directive => directive.toJson
  | options values => .ofMembers [("options", .array (values.map .string))]

/-- Reads an object with the values of options; other keys do not matter. -/
def optionsOfJson? : Json → Option Attachment
  | .object members => do
    let [some values] ← Json.memberFields? ["options"] members | none
    some (options (← values.texts?))
  | _ => none

/-- Reads a directive, or else the values of options. -/
def ofJson? (mode : ReadingMode) (value : Json) : Option Attachment :=
  if mode.admits value then
    match Directive.ofJson? value with
    | some directive => some (single directive)
    | none => optionsOfJson? value
  else none

end Attachment

namespace Acceptance

/-- An object of element and attachments. -/
def toJson (a : Acceptance) : Json :=
  .ofMembers
    [("element", a.element.toJson), ("directives", .array (a.attachments.map Attachment.toJson))]

/-- Reads a structure of element and attachments, of which the latter may be left out. -/
def ofJson? (mode : ReadingMode) (value : Json) : Option Acceptance := do
  let [some element, attachments?] ← value.fields? ["element", "directives"] | none
  let element ← Element.ofJson? (mode.inside 1) element
  let attachments ← Json.orElse attachments? (Json.all? (Attachment.ofJson? (mode.inside 2))) []
  some { element, attachments }

end Acceptance

/-- Reads a truth value. -/
def Json.bool? : Json → Option Bool
  | bool value => some value
  | _ => none

namespace Round

/-- An object of elements and flag. -/
def toJson (r : Round) : Json :=
  .ofMembers
    [("elements", .array (r.elements.map Acceptance.toJson)), ("processing_over", .bool r.isFinal)]

/-- Reads a structure of elements and flag, both of which may be left out. -/
def ofJson? (mode : ReadingMode) (value : Json) : Option Round := do
  let [elements?, isFinal?] ← value.fields? ["elements", "processing_over"] | none
  let elements ← Json.orElse elements? (Json.all? (Acceptance.ofJson? (mode.inside 2))) []
  let isFinal ← Json.orElse isFinal? Json.bool? false
  some { elements, isFinal }

end Round

/-- A value as a list of rounds, or else as one round. -/
def roundsOfJson? (value : Json) : Option (List Round) :=
  let mode : ReadingMode := { kindsByNumber := true }
  match Json.all? (Round.ofJson? mode) value with
  | some rounds => some rounds
  | none => (Round.ofJson? mode value).map ([·])

/-- Reads an input. The value is taken in as a whole and has to be of the right form before what
follows it is looked at. -/
def parseRounds (text : String) : Except InputProblem (List Round) :=
  match Json.readValue? text.toList with
  | none => .error .malformed
  | some (value, rest) =>
    if !({} : ReadingMode).admits value then .error .malformed
    else
      match roundsOfJson? value with
      | none => .error .wrongForm
      | some rounds => if (Json.skipSpaces rest).isEmpty then .ok rounds else .error .malformed

end CompilerHints
