import CompilerHints.Element
import CompilerHints.Json.Fields

/-!
# Shapes, declarations and elements in JSON

A shape is a string with its spelling. A declaration is a structure. An element is a structure whose
first field is its kind; it is read as a whole before it is looked at, so all of it has to be
readable.

* `Shape.toJson`, `Declaration.toJson`, `Element.toJson`: writing.
* `Shape.ofJson?`, `Declaration.ofJson?`, `Element.ofJson?`: reading.
-/

namespace CompilerHints

/-- How values are read that are first taken in as a whole. -/
structure ReadingMode where
  /-- How deep arrays and objects may be nested. -/
  depth : Nat := Json.maxDepth
  /-- Whether the kind of an element may also be given by its position among the kinds. -/
  kindsByNumber : Bool := false
deriving DecidableEq, Repr

/-- The mode for values that are so many levels further in. -/
def ReadingMode.inside (mode : ReadingMode) (levels : Nat) : ReadingMode :=
  { mode with depth := mode.depth - levels }

/-- Whether a value can be taken in as a whole. -/
def ReadingMode.admits (mode : ReadingMode) (value : Json) : Bool :=
  value.isReadable && decide (value.depth ≤ mode.depth)

namespace Shape

/-- A string with the spelling. -/
def toJson (shape : Shape) : Json :=
  .string shape.spelling

/-- Reads a string with a spelling. -/
def ofJson? (value : Json) : Option Shape :=
  value.text?.bind ofSpelling?

end Shape

namespace Declaration

/-- The fields of a declaration. -/
def fieldNames : List String :=
  ["owner", "name", "parameters", "returns"]

/-- The members of a declaration; a result that is not given is left out. -/
def members (d : Declaration) : List (String × Json) :=
  [("owner", .string d.owner), ("name", .string d.name),
   ("parameters", .array (d.parameters.map Shape.toJson))] ++
    d.returns.elim [] fun shape => [("returns", shape.toJson)]

/-- An object of the fields. -/
def toJson (d : Declaration) : Json :=
  .ofMembers d.members

/-- Reads the values of the fields. Parameters and result may be left out. -/
def ofFields? : List (Option Json) → Option Declaration
  | [some owner, some name, parameters?, returns?] => do
    let owner ← owner.text?
    let name ← name.text?
    let parameters ← Json.orElse parameters? (Json.all? Shape.ofJson?) []
    let returns ← Json.optional returns? Shape.ofJson?
    some { owner, name, parameters, returns }
  | _ => none

/-- Reads a structure. -/
def ofJson? (value : Json) : Option Declaration :=
  (value.fields? fieldNames).bind ofFields?

end Declaration

namespace Element

/-- The key of an element's kind. -/
def kindKey : String := "kind"

/-- An object of the kind and the fields. -/
def toJson (element : Element) : Json :=
  let fields :=
    match element with
    | package name => [("name", .string name)]
    | type name => [("name", .string name)]
    | constructor owner parameters =>
      [("owner", .string owner), ("parameters", .array (parameters.map Shape.toJson))]
    | method declaration => declaration.members
    | field owner name => [("owner", .string owner), ("name", .string name)]
    | parameter owner name => [("owner", .string owner), ("name", .string name)]
  .ofMembers ((kindKey, .string element.kind.name) :: fields)

/-- Reads a kind by its name, or by its position where that is admitted. -/
def kindOfJson? (mode : ReadingMode) : Json → Option ElementKind
  | .string name => ElementKind.ofName? name
  | .number n =>
    if mode.kindsByNumber then n.toNat?.bind fun i => ElementKind.all[i]? else none
  | _ => none

/-- Reads the fields of an element of a known kind. -/
def ofKind? (kind : ElementKind) (fields : Json) : Option Element :=
  match kind with
  | .package => do
    let [some name] ← fields.fields? ["name"] | none
    some (package (← name.text?))
  | .type => do
    let [some name] ← fields.fields? ["name"] | none
    some (type (← name.text?))
  | .constructor => do
    let [some owner, parameters?] ← fields.fields? ["owner", "parameters"] | none
    some (constructor (← owner.text?) (← Json.orElse parameters? (Json.all? Shape.ofJson?) []))
  | .method => (Declaration.ofJson? fields).map method
  | .field => do
    let [some owner, some name] ← fields.fields? ["owner", "name"] | none
    some (field (← owner.text?) (← name.text?))
  | .parameter => do
    let [some owner, some name] ← fields.fields? ["owner", "name"] | none
    some (parameter (← owner.text?) (← name.text?))

/-- Takes the kind out of a structure: its value, and the other fields. -/
def cutKind? : Json → Option (Json × Json)
  | .object members => do
    let some kind ← Json.member? kindKey members | none
    some (kind, .object (members.filter fun (key?, _) => key? ≠ some kindKey))
  | .array (kind :: rest) => some (kind, .array rest)
  | _ => none

/-- Reads a structure whose first field is the kind. -/
def ofJson? (mode : ReadingMode) (value : Json) : Option Element :=
  if mode.admits value then do
    let (kind, fields) ← cutKind? value
    ofKind? (← kindOfJson? mode kind) fields
  else none

end Element

end CompilerHints
