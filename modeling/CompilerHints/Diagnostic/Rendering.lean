import CompilerHints.Diagnostic.Basic

/-!
# Rendered diagnostics

A diagnostic as the terminal shows it: severity, code and message, then a line for the location and
one for each note and each help.

* `Diagnostic.render`: the text, with or without colors.
-/

namespace CompilerHints

/-- The control sequence that begins the style of a severity. -/
def Severity.style : Severity → String
  | note => "\x1b[1;36m"
  | warning => "\x1b[1;33m"
  | error => "\x1b[1;31m"

/-- The control sequence that ends a style. -/
def plainStyle : String := "\x1b[0m"

/-- A diagnostic as the terminal shows it. Severity and code are what is colored. -/
def Diagnostic.render (color : Bool) (d : Diagnostic) : String :=
  let label := d.severity.word ++ "[" ++ d.code.label ++ "]"
  let styled := if color then d.severity.style ++ label ++ plainStyle else label
  let location := d.location.elim "" fun l => "  --> " ++ l ++ "\n"
  let notes := d.notes.map fun n => "   = note: " ++ n ++ "\n"
  let help := d.help.map fun h => "   = help: " ++ h ++ "\n"
  styled ++ ": " ++ d.message ++ "\n" ++ location ++ String.join notes ++ String.join help

end CompilerHints
