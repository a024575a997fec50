import CompilerHints.Diagnostic.Basic

/-!
# Diagnostic sinks

Diagnostics are gathered while directives are processed. They can be taken out at any time; the
running totals of errors and warnings stay.

* `Sink.emit`: adds a diagnostic.
* `Sink.takeAll`: takes out what was gathered.
* `Sink.hasErrors`: whether an error was ever added.
-/

namespace CompilerHints

/-- Diagnostics that were not taken out yet, with running totals. -/
structure Sink where
  diagnostics : List Diagnostic := []
  errors : Nat := 0
  warnings : Nat := 0
deriving DecidableEq, Repr

namespace Sink

/-- The sink to which nothing was added. -/
def empty : Sink := {}

/-- Adds a diagnostic behind the others. -/
def emit (s : Sink) (d : Diagnostic) : Sink where
  diagnostics := s.diagnostics ++ [d]
  errors := if d.severity = .error then s.errors + 1 else s.errors
  warnings := if d.severity = .warning then s.warnings + 1 else s.warnings

/-- Takes out all diagnostics. -/
def takeAll (s : Sink) : List Diagnostic × Sink :=
  (s.diagnostics, { s with diagnostics := [] })

/-- Whether an error was ever added. -/
def hasErrors (s : Sink) : Bool :=
  decide (0 < s.errors)

end Sink

end CompilerHints
