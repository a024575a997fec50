import CompilerHints.Directive
import CompilerHints.FragmentName

/-!
# Lines

One rendered directive. A line is made from a directive on a declaration, or is the `quiet` that
some scope asked for; its text, its descriptor and its fragment name follow from that.

* `render`: the text of a directive on a declaration.
* `Line.text`, `Line.directive`, `Line.descriptor`, `Line.fragmentName`: what a line is made of.
* `Line.ofElement?`: the line for a directive on an element, where it is allowed.
-/

namespace CompilerHints

/-- The text that every `quiet` directive renders to. -/
def quietText : String := "quiet"

/-- The text of a directive on a declaration. An option's value comes last. -/
def render (d : Declaration) : Directive → String
  | .quiet => quietText
  | .option value => "option " ++ d.descriptor ++ " " ++ value
  | directive => directive.keyword ++ " " ++ d.descriptor

/-- One rendered directive. -/
inductive Line where
  /-- A directive on a method or constructor. -/
  | member (declaration : Declaration) (directive : Directive)
  /-- A `quiet` asked for by the scope of a given name. -/
  | quietScope (scope : String)
deriving DecidableEq, Repr

namespace Line

/-- The text of a line in the artifact. -/
def text : Line → String
  | member declaration directive => render declaration directive
  | quietScope _ => quietText

/-- The directive a line renders. -/
def directive : Line → Directive
  | member _ directive => directive
  | quietScope _ => .quiet

/-- What tells lines of one keyword apart: the descriptor of the member, with the value of an
option behind it, or the name of the scope. -/
def descriptor : Line → String
  | member declaration (.option value) => declaration.descriptor ++ " " ++ value
  | member declaration _ => declaration.descriptor
  | quietScope scope => scope

/-- The name of the file that holds the line in an incremental build. -/
def fragmentName (line : Line) : String :=
  CompilerHints.fragmentName line.directive.keyword line.descriptor

/-- Whether a line is the global `quiet`. -/
def isQuiet (line : Line) : Bool :=
  line.directive.isQuiet

/-- Lines count as equal when their texts are. -/
def sameText (a b : Line) : Bool :=
  a.text == b.text

/-- The line for a directive on an element, if the directive is allowed there. -/
def ofElement? (element : Element) (directive : Directive) : Option Line :=
  if directive.allowedOn element.kind then
    match element.declaration? with
    | some declaration => some (member declaration directive)
    | none => some (quietScope element.scope)
  else none

end Line

end CompilerHints
