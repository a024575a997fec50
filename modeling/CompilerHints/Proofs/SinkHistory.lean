import CompilerHints.Proofs.Sink

/-!
# The history of a sink

Diagnostics are added to a sink, taken out of it and looked at in any order. Each of them is taken
out once or still there, and the totals go on counting what was added, whatever was taken out.

* `Sink.Operation`, `Sink.perform`: what can be done with a sink.
* `Sink.after`, `Sink.taken`, `Operation.emitted?`: what a series of operations leaves, gives out
  and adds.
* `Sink.takenBy_append_diagnostics`, `Sink.taken_append_diagnostics`: one operation and many.
* `Sink.totals_after`: the totals after a series.
* `Sink.losesNothing`: what holds of every series, beginning with an empty sink.
-/

namespace CompilerHints

namespace Sink

/-- What can be done with a sink. -/
inductive Operation where
  | emit (d : Diagnostic)
  | takeAll
  /-- The diagnostics are looked at, and stay. -/
  | look
deriving DecidableEq, Repr

/-- The diagnostic that an operation adds. -/
def Operation.emitted? : Operation → Option Diagnostic
  | emit d => some d
  | _ => none

/-- The diagnostics that an operation answers with, and the sink after it. -/
def perform (s : Sink) : Operation → List Diagnostic × Sink
  | .emit d => ([], s.emit d)
  | .takeAll => s.takeAll
  | .look => (s.diagnostics, s)

/-- A sink after operations one after the other. -/
def after (s : Sink) : List Operation → Sink
  | [] => s
  | op :: rest => (s.perform op).2.after rest

/-- What the operations that take out diagnostics answer, in order. -/
def taken (s : Sink) : List Operation → List (List Diagnostic)
  | [] => []
  | op :: rest =>
    let (answer, next) := s.perform op
    if op = .takeAll then answer :: next.taken rest else next.taken rest

theorem after_append (s : Sink) (a b : List Operation) :
    s.after (a ++ b) = (s.after a).after b := by
  induction a generalizing s with
  | nil => rfl
  | cons op a ih => exact ih (s.perform op).2

/-! ### What is taken out -/

/-- The diagnostics that one operation takes out. -/
def takenBy (s : Sink) (op : Operation) : List Diagnostic :=
  if op = .takeAll then (s.perform op).1 else []

theorem flatten_taken_cons (s : Sink) (op : Operation) (rest : List Operation) :
    (s.taken (op :: rest)).flatten = s.takenBy op ++ ((s.perform op).2.taken rest).flatten := by
  cases op <;> rfl

/-- What an operation takes out and what it leaves is what was there and what it adds. -/
theorem takenBy_append_diagnostics (s : Sink) (op : Operation) :
    s.takenBy op ++ (s.perform op).2.diagnostics = s.diagnostics ++ op.emitted?.toList := by
  cases op with
  | emit d => rfl
  | takeAll => rfl
  | look => exact (List.append_nil _).symm

/-- What operations take out, in order, and then what they leave is what was there and what they
add. -/
theorem taken_append_diagnostics (s : Sink) (ops : List Operation) :
    (s.taken ops).flatten ++ (s.after ops).diagnostics =
      s.diagnostics ++ ops.filterMap Operation.emitted? := by
  induction ops generalizing s with
  | nil => exact (List.append_nil _).symm
  | cons op rest ih =>
    calc (s.taken (op :: rest)).flatten ++ (s.after (op :: rest)).diagnostics
        = s.takenBy op ++
            (((s.perform op).2.taken rest).flatten ++
              ((s.perform op).2.after rest).diagnostics) := by
          rw [flatten_taken_cons, List.append_assoc, after]
      _ = s.takenBy op ++ (s.perform op).2.diagnostics ++
            rest.filterMap Operation.emitted? := by
          rw [ih, List.append_assoc]
      _ = s.diagnostics ++ (op :: rest).filterMap Operation.emitted? := by
          rw [takenBy_append_diagnostics, List.append_assoc, List.filterMap_cons]
          cases op <;> rfl

/-- What is taken out by operations in two parts. -/
theorem taken_append (s : Sink) (a b : List Operation) :
    s.taken (a ++ b) = s.taken a ++ (s.after a).taken b := by
  induction a generalizing s with
  | nil => rfl
  | cons op a ih =>
    have hrest := ih (s.perform op).2
    cases op with
    | emit d => exact hrest
    | takeAll => exact congrArg (s.diagnostics :: ·) hrest
    | look => exact hrest

/-! ### What is counted -/

/-- The totals are those of a sink to which the same diagnostics were added, with nothing taken
out. -/
theorem totals_after (s : Sink) (ops : List Operation) :
    (s.after ops).errors = (s.emitAll (ops.filterMap Operation.emitted?)).errors ∧
      (s.after ops).warnings = (s.emitAll (ops.filterMap Operation.emitted?)).warnings := by
  induction ops generalizing s with
  | nil => exact ⟨rfl, rfl⟩
  | cons op rest ih =>
    obtain ⟨herrors, hwarnings⟩ := ih (s.perform op).2
    cases op with
    | emit d => exact ⟨herrors, hwarnings⟩
    | takeAll =>
      -- the totals do not look at what is there, so it may be taken out
      rw [errors_emitAll] at herrors ⊢
      rw [warnings_emitAll] at hwarnings ⊢
      exact ⟨herrors, hwarnings⟩
    | look => exact ⟨herrors, hwarnings⟩

theorem errors_after_empty (ops : List Operation) :
    (empty.after ops).errors =
      (ops.filterMap Operation.emitted?).countP fun d => d.severity = .error := by
  rw [(totals_after empty ops).1, errors_emitAll]
  exact Nat.zero_add _

theorem warnings_after_empty (ops : List Operation) :
    (empty.after ops).warnings =
      (ops.filterMap Operation.emitted?).countP fun d => d.severity = .warning := by
  rw [(totals_after empty ops).2, warnings_emitAll]
  exact Nat.zero_add _

/-- There are errors if one was ever added. -/
theorem hasErrors_after_empty_iff (ops : List Operation) :
    (empty.after ops).hasErrors = true ↔
      ∃ d ∈ ops.filterMap Operation.emitted?, d.severity = .error := by
  rw [hasErrors, decide_eq_true_iff, errors_after_empty, List.countP_pos_iff]
  simp only [decide_eq_true_eq]

/-! ### Every history -/

/-- What a history of a sink comes to that was empty in the beginning. -/
structure LosesNothing (ops : List Operation) : Prop where
  /-- Each diagnostic was taken out once or is still there, in the order in which they came. -/
  diagnostics : (empty.taken ops).flatten ++ (empty.after ops).diagnostics =
    ops.filterMap Operation.emitted?
  /-- Looking shows what came and was not taken out before, and changes nothing. -/
  looked : ∀ pre post, ops = pre ++ .look :: post →
    (empty.taken pre).flatten ++ ((empty.after pre).perform .look).1 =
        pre.filterMap Operation.emitted? ∧
      empty.after ops = empty.after (pre ++ post) ∧ empty.taken ops = empty.taken (pre ++ post)
  errors : (empty.after ops).errors =
    (ops.filterMap Operation.emitted?).countP fun d => d.severity = .error
  warnings : (empty.after ops).warnings =
    (ops.filterMap Operation.emitted?).countP fun d => d.severity = .warning
  hasErrors_iff : (empty.after ops).hasErrors = true ↔
    ∃ d ∈ ops.filterMap Operation.emitted?, d.severity = .error
  /-- Where there were errors once, there are errors ever after. -/
  lasting : ∀ pre post, ops = pre ++ post → (empty.after pre).hasErrors = true →
    (empty.after ops).hasErrors = true

/-- Whatever is done with a sink, no diagnostic is lost, and none is told or counted twice. -/
theorem losesNothing (ops : List Operation) : LosesNothing ops where
  diagnostics := taken_append_diagnostics empty ops
  looked pre post h := by
    have hpre := taken_append_diagnostics empty pre
    refine ⟨hpre, ?_, ?_⟩
    · rw [h, after_append, after_append]
      rfl
    · rw [h, taken_append, taken_append]
      rfl
  errors := errors_after_empty ops
  warnings := warnings_after_empty ops
  hasErrors_iff := hasErrors_after_empty_iff ops
  lasting pre post h hpre := by
    obtain ⟨d, hd, herror⟩ := (hasErrors_after_empty_iff pre).1 hpre
    refine (hasErrors_after_empty_iff ops).2 ⟨d, ?_, herror⟩
    rw [h, List.filterMap_append]
    exact List.mem_append_left _ hd

/-- An error that was taken out still counts, also under the code of a warning. -/
example :
    let d : Diagnostic := { severity := .error, code := ⟨.warning, 201⟩, message := "m" }
    let s := empty.after [.emit d, .takeAll]
    s.diagnostics = [] ∧ s.hasErrors = true ∧ s.warnings = 0 := by
  decide

end Sink

end CompilerHints
