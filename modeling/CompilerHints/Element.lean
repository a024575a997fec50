import CompilerHints.Declaration

/-!
# Program elements

What a directive can be attached to. Methods and constructors are known by their declaration, the
other elements by a name alone.

* `Element.kind`: which of the six kinds an element is of.
* `Element.declaration?`: the declaration of a method or constructor.
* `Element.scope`: the name of an element in messages and fragment names.
-/

namespace CompilerHints

/-- The kinds of program elements. -/
inductive ElementKind where
  | package
  | type
  | constructor
  | method
  | field
  | parameter
deriving DecidableEq, Repr

namespace ElementKind

/-- All kinds. -/
def all : List ElementKind :=
  [package, type, constructor, method, field, parameter]

/-- The name of a kind. -/
def name : ElementKind → String
  | package => "package"
  | type => "type"
  | constructor => "constructor"
  | method => "method"
  | field => "field"
  | parameter => "parameter"

/-- The kind with a given name. -/
def ofName? (name : String) : Option ElementKind :=
  all.find? fun k => k.name == name

@[simp] theorem ofName?_name (k : ElementKind) : ofName? k.name = some k := by
  cases k <;> rfl

end ElementKind

/-- A program element that directives can be attached to. -/
inductive Element where
  /-- A package, by its dotted name. -/
  | package (name : String)
  /-- A type, by its dotted name. -/
  | type (name : String)
  /-- A constructor of a type. -/
  | constructor (owner : String) (parameters : List Shape)
  /-- A method. -/
  | method (declaration : Declaration)
  /-- A field of a type. -/
  | field (owner name : String)
  /-- A parameter of a member, which is given by its descriptor. -/
  | parameter (owner name : String)
deriving DecidableEq, Repr

namespace Element

/-- The kind of an element. -/
def kind : Element → ElementKind
  | package _ => .package
  | type _ => .type
  | constructor _ _ => .constructor
  | method _ => .method
  | field _ _ => .field
  | parameter _ _ => .parameter

/-- The declaration of a method or constructor. -/
def declaration? : Element → Option Declaration
  | method declaration => some declaration
  | constructor owner parameters => some (.constructor owner parameters)
  | _ => none

/-- The element that a declaration stands for. Named as a constructor, it loses its result. -/
def ofDeclaration (d : Declaration) : Element :=
  if d.isConstructor then constructor d.owner d.parameters else method d

/-- The name of an element: a dotted name, a descriptor, or owner and name with a dot between. -/
def scope : Element → String
  | package name => name
  | type name => name
  | constructor owner parameters => (Declaration.constructor owner parameters).descriptor
  | method declaration => declaration.descriptor
  | field owner name => owner ++ "." ++ name
  | parameter owner name => owner ++ "." ++ name

end Element

end CompilerHints
