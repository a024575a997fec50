import CompilerHints.Diagnostic.Basic
import CompilerHints.Line
import CompilerHints.Processing.Round
import CompilerHints.Text.Quoted

/-!
# Verdicts

Every directive on an element is judged by itself and by what was accepted before on the same
element. It is rejected where it is not allowed, or where it is an option whose value does not fit
on one line; else it is accepted, with a warning if the same directive was accepted before.

* `Verdict`: rejected with an error, or accepted as a line.
* `judge`: the verdicts on the directives of one element in order.
-/

namespace CompilerHints

open Text

/-- The code of a directive on an element that cannot carry it. -/
def invalidPlacement : Code := ⟨.error, 101⟩

/-- The code of an option whose value does not fit on one line. -/
def invalidOption : Code := ⟨.error, 102⟩

/-- The code of a directive that is attached to an element again. -/
def repeatedDirective : Code := ⟨.warning, 201⟩

/-- What becomes of one directive on one element. -/
inductive Verdict where
  /-- It is left out, and reported. -/
  | rejected (error : Diagnostic)
  /-- It becomes a line, with a report if it was there before. -/
  | accepted (warning? : Option Diagnostic) (line : Line)
deriving DecidableEq, Repr

/-- Whether a directive can be written on one line: an option has a value, without line ends. -/
def Directive.fitsOnLine : Directive → Bool
  | .option value => value ≠ "" && !value.toList.contains '\n' && !value.toList.contains '\r'
  | _ => true

/-- The report of a directive on an element that cannot carry it. -/
def misplaced (element : Element) (directive : Directive) : Diagnostic where
  severity := .error
  code := invalidPlacement
  message := "`" ++ directive.keyword ++ "` is not allowed on a " ++ element.kind.name
  location := some element.scope
  help :=
    [if directive.isQuiet then "`quiet` applies to packages, types, methods and constructors"
     else "move the directive to a method or constructor"]

/-- The report of an option whose value does not fit on one line. -/
def unfitting (element : Element) (value : String) : Diagnostic where
  severity := .error
  code := invalidOption
  message := "invalid option value " ++ quoteText value
  location := some element.scope
  notes := ["option values must be non-empty and fit on one line"]

/-- The report of a directive that was accepted on the element before. -/
def repeated (element : Element) (directive : Directive) : Diagnostic where
  severity := .warning
  code := repeatedDirective
  message := "`" ++ directive.label ++ "` is attached more than once"
  location := some element.scope

/-- The verdict on a directive, given what was accepted before on the same element. -/
def verdict (element : Element) (before : List Directive) (directive : Directive) : Verdict :=
  match Line.ofElement? element directive with
  | none => .rejected (misplaced element directive)
  | some line =>
    match directive with
    | .option value =>
      if directive.fitsOnLine then
        .accepted (if directive ∈ before then some (repeated element directive) else none) line
      else .rejected (unfitting element value)
    | _ => .accepted (if directive ∈ before then some (repeated element directive) else none) line

/-- Whether a directive was accepted. -/
def Verdict.isAccepted : Verdict → Bool
  | rejected _ => false
  | accepted _ _ => true

/-- The verdicts on directives in order, given what was accepted before on the same element. -/
def judge (element : Element) (before : List Directive) : List Directive → List Verdict
  | [] => []
  | directive :: rest =>
    let v := verdict element before directive
    v :: judge element (if v.isAccepted then directive :: before else before) rest

/-- The verdicts on all directives of an acceptance. -/
def Acceptance.verdicts (a : Acceptance) : List Verdict :=
  judge a.element [] a.directives

/-- The verdicts on all directives of a round. -/
def Round.verdicts (r : Round) : List Verdict :=
  r.elements.flatMap Acceptance.verdicts

end CompilerHints
