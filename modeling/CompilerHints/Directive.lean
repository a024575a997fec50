import CompilerHints.Element

/-!
# Directives

One instruction to the compiler, and the form in which instructions are attached to an element.

* `Directive.keyword`: the word a line begins with.
* `Directive.allowedOn`: which directives may stand on which elements.
* `Attachment.expand`: the directives that an attachment stands for.
-/

namespace CompilerHints

/-- One instruction to the compiler about a member. -/
inductive Directive where
  /-- Always inline the member. -/
  | inline
  /-- Never inline the member. -/
  | dontInline
  /-- Do not compile the member. -/
  | exclude
  /-- Compile only such members. -/
  | compileOnly
  /-- Stop in the debugger when the member is compiled. -/
  | breakpoint
  /-- Log the compilation of the member. -/
  | log
  /-- Print the generated code of the member. -/
  | print
  /-- Do not print the directives at startup; it concerns no member in particular. -/
  | quiet
  /-- Pass on a compiler option for the member. -/
  | option (value : String)
deriving DecidableEq, Repr

namespace Directive

/-- The word a line begins with. -/
def keyword : Directive → String
  | inline => "inline"
  | dontInline => "dontinline"
  | exclude => "exclude"
  | compileOnly => "compileonly"
  | breakpoint => "break"
  | log => "log"
  | print => "print"
  | quiet => "quiet"
  | option _ => "option"

/-- The directives that are a keyword and nothing else. -/
def plain : List Directive :=
  [inline, dontInline, exclude, compileOnly, breakpoint, log, print, quiet]

/-- The plain directive with a given keyword. -/
def ofKeyword? (keyword : String) : Option Directive :=
  plain.find? fun d => d.keyword == keyword

/-- A directive as messages name it: the keyword, with the value of an option in parentheses. -/
def label : Directive → String
  | option value => "option(" ++ value ++ ")"
  | directive => directive.keyword

/-- Whether a directive is `quiet`. -/
def isQuiet : Directive → Bool
  | quiet => true
  | _ => false

/-- Methods and constructors take every directive, packages and types take `quiet`, and fields and
parameters take none. -/
def allowedOn (directive : Directive) : ElementKind → Bool
  | .method => true
  | .constructor => true
  | .package => directive.isQuiet
  | .type => directive.isQuiet
  | .field => false
  | .parameter => false

@[simp] theorem isQuiet_iff {directive : Directive} :
    directive.isQuiet = true ↔ directive = quiet := by
  cases directive <;> simp [isQuiet]

end Directive

/-- What is attached to an element: one directive, or several option values at once. -/
inductive Attachment where
  | single (directive : Directive)
  | options (values : List String)
deriving DecidableEq, Repr

/-- The directives that an attachment stands for, in order. -/
def Attachment.expand : Attachment → List Directive
  | single directive => [directive]
  | options values => values.map .option

end CompilerHints
