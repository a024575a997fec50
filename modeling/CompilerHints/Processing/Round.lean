import CompilerHints.Directive

/-!
# Rounds

Annotated elements arrive in rounds; one of them says that there is nothing more to come.

* `Acceptance`: an element and what is attached to it.
* `Round`: the elements of a round, and whether it is the final one.
-/

namespace CompilerHints

/-- An element and what is attached to it. -/
structure Acceptance where
  element : Element
  attachments : List Attachment := []
deriving DecidableEq, Repr

/-- The directives on the element in order. -/
def Acceptance.directives (a : Acceptance) : List Directive :=
  a.attachments.flatMap Attachment.expand

/-- The elements of a round. -/
structure Round where
  elements : List Acceptance := []
  /-- Whether nothing comes after this round. -/
  isFinal : Bool := false
deriving DecidableEq, Repr

/-- The final round without elements. -/
def Round.over : Round where
  isFinal := true

end CompilerHints
