import CompilerHints.Shape

/-!
# Declarations

A reference to one method or constructor.

* `Declaration.signature`: the codes of the parameters and of the result, such as `(I[D)V`.
* `Declaration.descriptor`: owner, name and signature, such as `pkg.Foo::m ()V`.
-/

namespace CompilerHints

/-- The name under which constructors appear in descriptors. -/
def constructorName : String := "<init>"

/-- A method or a constructor of a type. -/
structure Declaration where
  /-- The dotted name of the type that declares the member. -/
  owner : String
  /-- The name of the member. -/
  name : String
  /-- The shapes of the parameters in order. -/
  parameters : List Shape := []
  /-- The shape of the result; none counts as `void`. -/
  returns : Option Shape := none
deriving DecidableEq, Repr

namespace Declaration

/-- A constructor of a type. -/
def constructor (owner : String) (parameters : List Shape) : Declaration where
  owner := owner
  name := constructorName
  parameters := parameters

/-- Whether a declaration is named as constructors are. -/
def isConstructor (d : Declaration) : Bool :=
  d.name == constructorName

/-- The codes of the parameters, one after the other. -/
def parameterCodes : List Shape → String
  | [] => ""
  | shape :: rest => shape.signature ++ parameterCodes rest

/-- The codes of the parameters between parentheses, then the code of the result. -/
def signature (d : Declaration) : String :=
  "(" ++ parameterCodes d.parameters ++ ")" ++ (d.returns.getD .void).signature

/-- Owner, name and signature. Names are taken as they are. -/
def descriptor (d : Declaration) : String :=
  d.owner ++ "::" ++ d.name ++ " " ++ d.signature

end Declaration

end CompilerHints
