import CompilerHints.Diagnostic.Sink

/-!
# Diagnostics that were added one after the other

* `Sink.emitAll`: a sink with diagnostics added.
* `Sink.diagnostics_emitAll`, `Sink.errors_emitAll`, `Sink.warnings_emitAll`: what is in it.
-/

namespace CompilerHints

namespace Sink

/-- A sink with diagnostics added one after the other. -/
def emitAll (s : Sink) (ds : List Diagnostic) : Sink :=
  ds.foldl emit s

@[simp] theorem emitAll_nil (s : Sink) : s.emitAll [] = s := rfl

@[simp] theorem emitAll_cons (s : Sink) (d : Diagnostic) (ds : List Diagnostic) :
    s.emitAll (d :: ds) = (s.emit d).emitAll ds := rfl

theorem diagnostics_emitAll (s : Sink) (ds : List Diagnostic) :
    (s.emitAll ds).diagnostics = s.diagnostics ++ ds := by
  induction ds generalizing s with
  | nil => rw [emitAll_nil, List.append_nil]
  | cons d ds ih => rw [emitAll_cons, ih, emit, List.append_assoc, List.singleton_append]

theorem errors_emitAll (s : Sink) (ds : List Diagnostic) :
    (s.emitAll ds).errors = s.errors + ds.countP fun d => d.severity = .error := by
  induction ds generalizing s with
  | nil => rfl
  | cons d ds ih =>
    rw [emitAll_cons, ih, List.countP_cons, emit]
    simp only [decide_eq_true_eq]
    split <;> omega

theorem warnings_emitAll (s : Sink) (ds : List Diagnostic) :
    (s.emitAll ds).warnings = s.warnings + ds.countP fun d => d.severity = .warning := by
  induction ds generalizing s with
  | nil => rfl
  | cons d ds ih =>
    rw [emitAll_cons, ih, List.countP_cons, emit]
    simp only [decide_eq_true_eq]
    split <;> omega

end Sink

end CompilerHints
