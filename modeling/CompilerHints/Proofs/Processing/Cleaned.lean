import CompilerHints.Proofs.Processing.Alike
import CompilerHints.Proofs.Sink

/-!
# Rejected directives do not influence the others

An input is cleaned by leaving out the directives that will be rejected. A run over the cleaned
input does the same to the files and comes to the same end: a rejected directive is reported, and
that is all.

* `Round.cleaned`, `Round.verdicts_cleaned`: the verdicts that remain are the accepting ones.
* `Sink.ErrorsLeftOut`, `Session.carryOut_filter`: carrying out the accepting verdicts only.
* `Session.errors_runFrom`: the errors of a run, one for each rejected occurrence that it reached.
* `Session.run_cleaned`: a run and the run over the cleaned input.
-/

namespace CompilerHints

/-! ### Cleaned inputs -/

/-- What is left of an attachment without the directives that the element cannot carry or that do
not fit on a line. -/
def Attachment.cleaned (element : Element) : Attachment → List Attachment
  | single k => if (Occurrence.mk element k).isAccepted then [single k] else []
  | options values =>
    [options (values.filter fun value => (Occurrence.mk element (.option value)).isAccepted)]

/-- An acceptance without the directives that are rejected. -/
def Acceptance.cleaned (a : Acceptance) : Acceptance where
  element := a.element
  attachments := a.attachments.flatMap (Attachment.cleaned a.element)

/-- A round without the directives that are rejected. -/
def Round.cleaned (r : Round) : Round where
  elements := r.elements.map Acceptance.cleaned
  isFinal := r.isFinal

theorem Attachment.expand_cleaned (element : Element) (x : Attachment) :
    (x.cleaned element).flatMap expand =
      x.expand.filter fun k => (Occurrence.mk element k).isAccepted := by
  cases x with
  | single k =>
    rw [cleaned, expand, List.filter_cons, List.filter_nil]
    split <;> rfl
  | options values =>
    rw [cleaned, expand, List.flatMap_singleton, expand, List.filter_map]
    rfl

theorem Acceptance.directives_cleaned (a : Acceptance) :
    a.cleaned.directives =
      a.directives.filter fun k => (Occurrence.mk a.element k).isAccepted := by
  rw [directives, directives, List.filter_flatMap]
  show (a.attachments.flatMap (Attachment.cleaned a.element)).flatMap Attachment.expand = _
  rw [List.flatMap_assoc]
  exact List.flatMap_congr fun x _ => x.expand_cleaned a.element

/-- Rejected directives do not count for the verdicts on the others. -/
theorem judge_filter (element : Element) (before ks : List Directive) :
    judge element before (ks.filter fun k => (Occurrence.mk element k).isAccepted) =
      (judge element before ks).filter Verdict.isAccepted := by
  induction ks generalizing before with
  | nil => rfl
  | cons k ks ih =>
    rw [judge_cons, List.filter_cons, List.filter_cons, isAccepted_verdict]
    by_cases hk : (Occurrence.mk element k).isAccepted = true
    · rw [if_pos hk, if_pos hk, judge_cons, ih]
    · rw [if_neg hk, if_neg hk, ih, noted, if_neg hk]

theorem Acceptance.verdicts_cleaned (a : Acceptance) :
    a.cleaned.verdicts = a.verdicts.filter Verdict.isAccepted := by
  rw [verdicts, directives_cleaned]
  exact judge_filter a.element [] a.directives

/-- The accepting verdicts remain. -/
theorem Round.verdicts_cleaned (r : Round) :
    r.cleaned.verdicts = r.verdicts.filter Verdict.isAccepted := by
  rw [verdicts, verdicts, cleaned, List.flatMap_map, List.filter_flatMap]
  exact List.flatMap_congr fun a _ => a.verdicts_cleaned

/-! ### Sinks without the errors -/

namespace Sink

/-- The second sink has the warnings of the first one, and no errors. -/
structure ErrorsLeftOut (a b : Sink) : Prop where
  diagnostics : b.diagnostics = a.diagnostics.filter fun d => d.severity = .warning
  errors : b.errors = 0
  warnings : b.warnings = a.warnings

namespace ErrorsLeftOut

variable {a b : Sink} {d : Diagnostic}

theorem emit_error (h : ErrorsLeftOut a b) (hd : d.severity = .error) :
    ErrorsLeftOut (a.emit d) b where
  diagnostics := by simp [emit, hd, h.diagnostics]
  errors := h.errors
  warnings := by simp [emit, hd, h.warnings]

theorem emit_warning (h : ErrorsLeftOut a b) (hd : d.severity = .warning) :
    ErrorsLeftOut (a.emit d) (b.emit d) where
  diagnostics := by simp [emit, hd, h.diagnostics]
  errors := by simp [emit, hd, h.errors]
  warnings := by simp [emit, hd, h.warnings]

end ErrorsLeftOut

end Sink

/-! ### Sessions -/

namespace Session

variable {s t : Session} {round : Round}

/-- Without the rejecting verdicts the same is done, and the errors are left out. -/
theorem carryOut_filter (h : AlikeUpTo Sink.ErrorsLeftOut s t) {verdicts : List Verdict}
    (hgraded : ∀ v ∈ verdicts, v.IsGraded) :
    (s.carryOut verdicts).1 = (t.carryOut (verdicts.filter Verdict.isAccepted)).1 ∧
      AlikeUpTo Sink.ErrorsLeftOut (s.carryOut verdicts).2
        (t.carryOut (verdicts.filter Verdict.isAccepted)).2 := by
  induction verdicts generalizing s t with
  | nil => exact ⟨rfl, h⟩
  | cons v rest ih =>
    rw [List.forall_mem_cons] at hgraded
    obtain ⟨hv, hrest⟩ := hgraded
    cases v with
    | rejected error =>
      have hemit : AlikeUpTo Sink.ErrorsLeftOut (s.emit error) t :=
        ⟨h.processor, h.files, h.sink.emit_error hv⟩
      exact ih hemit hrest
    | accepted warning? line =>
      have hemit : AlikeUpTo Sink.ErrorsLeftOut (warning?.elim s s.emit)
          (warning?.elim t t.emit) := by
        cases warning? with
        | none => exact h
        | some d => exact ⟨h.processor, h.files, h.sink.emit_warning (hv d rfl)⟩
      have hkept : (Verdict.accepted warning? line).isAccepted = true := rfl
      rw [List.filter_cons, if_pos hkept, carryOut, carryOut]
      cases hs : (warning?.elim s s.emit).collect line with
      | mk result s' =>
        obtain ⟨t', ht, halike⟩ := AlikeUpTo.exists_of_eq (hemit.collect line) hs
        rw [ht]
        cases result with
        | error failure => exact ⟨rfl, halike⟩
        | ok _ => exact ih halike hrest

theorem process_cleaned (h : AlikeUpTo Sink.ErrorsLeftOut s t) (round : Round) :
    (s.process round).1 = (t.process round.cleaned).1 ∧
      AlikeUpTo Sink.ErrorsLeftOut (s.process round).2 (t.process round.cleaned).2 := by
  refine h.process ?_ rfl
  rw [Round.verdicts_cleaned]
  exact carryOut_filter h fun v hv => Round.isGraded_of_mem_verdicts hv

theorem finish_alike (h : AlikeUpTo Sink.ErrorsLeftOut s t) :
    s.finish.1 = t.finish.1 ∧ AlikeUpTo Sink.ErrorsLeftOut s.finish.2 t.finish.2 := by
  have hover := process_cleaned h .over
  unfold finish
  cases hs : s.process .over with
  | mk result s' =>
    obtain ⟨t', ht, halike⟩ := AlikeUpTo.exists_of_eq hover hs
    have ht : t.process .over = (result, t') := ht
    rw [ht]
    cases result with
    | error failure => exact ⟨rfl, halike⟩
    | ok report? => cases report? <;> exact ⟨rfl, halike⟩

theorem runFrom_cleaned (h : AlikeUpTo Sink.ErrorsLeftOut s t) (last : Option Report)
    (rounds : List Round) :
    (s.runFrom last rounds).1 = (t.runFrom last (rounds.map Round.cleaned)).1 ∧
      AlikeUpTo Sink.ErrorsLeftOut (s.runFrom last rounds).2
        (t.runFrom last (rounds.map Round.cleaned)).2 := by
  induction rounds generalizing s t last with
  | nil =>
    cases last with
    | some report => exact ⟨rfl, h⟩
    | none => exact finish_alike h
  | cons round rest ih =>
    rw [List.map_cons, runFrom, runFrom]
    cases hs : s.process round with
    | mk result s' =>
      obtain ⟨t', ht, halike⟩ := AlikeUpTo.exists_of_eq (process_cleaned h round) hs
      rw [ht]
      cases result with
      | error failure => exact ⟨rfl, halike⟩
      | ok report? => exact ih halike report?

/-! ### Errors -/

/-- The errors among the diagnostics of a session. -/
def errors (s : Session) : List Diagnostic :=
  s.sink.diagnostics.filter fun d => d.severity = .error

/-- Graded verdicts report their errors, and no others. -/
theorem filter_error_filterMap_diagnostic? {verdicts : List Verdict}
    (hgraded : ∀ v ∈ verdicts, v.IsGraded) :
    (verdicts.filterMap Verdict.diagnostic?).filter (fun d => d.severity = .error) =
      verdicts.filterMap Verdict.error? := by
  rw [List.filter_filterMap]
  refine List.filterMap_congr fun v hv => ?_
  cases v with
  | rejected error =>
    have herror : error.severity = .error := hgraded _ hv
    simp [Verdict.diagnostic?, Verdict.error?, herror]
  | accepted warning? line =>
    cases warning? with
    | none => rfl
    | some d =>
      have hwarning : d.severity = .warning := hgraded _ hv d rfl
      simp [Verdict.diagnostic?, Verdict.error?, hwarning]

/-- A round reports one error for each rejected occurrence that it gets to. -/
theorem Takes.errors_eq {result : Except Failure (Option Report)} (h : s.Takes round result t) :
    t.errors = s.errors ++ (s.reachedIn round).filterMap Occurrence.error? := by
  by_cases hclosed : s.processor.finished = true
  · rw [(h.eq_of_finished hclosed).2, reachedIn, if_pos hclosed, List.filterMap_nil,
      List.append_nil]
  · rw [Bool.not_eq_true] at hclosed
    have hgraded (v : Verdict) (hv : v ∈ s.carried round.verdicts) : v.IsGraded :=
      Round.isGraded_of_mem_verdicts (List.mem_of_mem_take hv)
    have hsink : t.sink =
        s.sink.emitAll ((s.carried round.verdicts).filterMap Verdict.diagnostic?) :=
      (h.recorded hclosed).sink
    rw [errors, hsink, Sink.diagnostics_emitAll, List.filter_append,
      filter_error_filterMap_diagnostic? hgraded,
      filterMap_carried hclosed round.map_error?_verdicts]
    rfl

/-- A run reports one error for each rejected occurrence that it reaches. -/
theorem errors_runFrom (s : Session) (last : Option Report) (rounds : List Round) :
    (s.runFrom last rounds).2.errors =
      s.errors ++ (s.reached rounds).filterMap Occurrence.error? := by
  induction rounds generalizing s last with
  | nil =>
    rw [reached, List.filterMap_nil, List.append_nil]
    cases last with
    | some report => rfl
    | none =>
      have hfinish := (takes_finish s).errors_eq
      rw [reachedIn_over, List.filterMap_nil, List.append_nil] at hfinish
      exact hfinish
  | cons round rest ih =>
    have hround := (takes_process s round).errors_eq
    rw [runFrom, reached, List.filterMap_append, ← List.append_assoc, ← hround]
    cases s.process round with
    | mk result t =>
      cases result with
      | ok report? => exact ih t report?
      | error failure => exact (List.append_nil _).symm

theorem filterMap_error? (os : List Occurrence) :
    os.filterMap Occurrence.error? =
      (os.filter fun o => !o.isAccepted).map Occurrence.error := by
  induction os with
  | nil => rfl
  | cons o os ih =>
    rw [List.filterMap_cons, List.filter_cons, ih, Occurrence.error?]
    cases o.isAccepted <;> rfl

/-- A run over the cleaned input comes to the same report or failure and the same files, with the
warnings of the run over the original input. That one reports, besides, one error for each rejected
occurrence that it reached. -/
theorem run_cleaned (output : Output) (fs : FileSystem) (rounds : List Round) :
    let original := (start output fs).run rounds
    let cleaned := (start output fs).run (rounds.map Round.cleaned)
    cleaned.1 = original.1 ∧ cleaned.2.files = original.2.files ∧
      cleaned.2.sink.diagnostics =
        original.2.sink.diagnostics.filter (fun d => d.severity = .warning) ∧
      cleaned.2.sink.hasErrors = false ∧
      original.2.sink.diagnostics.filter (fun d => d.severity = .error) =
        (((start output fs).reached rounds).filter fun o => !o.isAccepted).map
          Occurrence.error := by
  intro original cleaned
  have hstart : AlikeUpTo Sink.ErrorsLeftOut (start output fs) (start output fs) :=
    ⟨rfl, rfl, rfl, rfl, rfl⟩
  obtain ⟨hresult, halike⟩ :
      original.1 = cleaned.1 ∧ AlikeUpTo Sink.ErrorsLeftOut original.2 cleaned.2 :=
    runFrom_cleaned hstart none rounds
  have herrors : original.2.errors = _ := errors_runFrom (start output fs) none rounds
  refine ⟨hresult.symm, halike.files.symm, halike.sink.diagnostics, ?_, ?_⟩
  · rw [Sink.hasErrors, halike.sink.errors]
    rfl
  · rw [← filterMap_error?]
    exact herrors

end Session

end CompilerHints
