import CompilerHints.Proofs.Processing.Accepted

/-!
# Occurrences of directives

Each verdict is about one occurrence of a directive on an element. Whether it is accepted, the line
that it becomes and the error that is reported otherwise depend on the occurrence alone; what was
accepted before on the element decides only whether there is a warning.

* `Occurrence`, `Occurrence.isAccepted`: a directive on an element.
* `verdict_eq`: the verdict on an occurrence.
* `Round.map_line?_verdicts`, `Round.map_error?_verdicts`: the verdicts of a round, one for each
  occurrence in order.
* `Verdict.IsGraded`: rejections are reported as errors, and nothing else is.
-/

namespace CompilerHints

/-- One directive on one element. -/
structure Occurrence where
  element : Element
  directive : Directive
deriving DecidableEq, Repr

namespace Occurrence

/-- Whether the element can carry the directive, and the directive fits on a line. -/
def isAccepted (o : Occurrence) : Bool :=
  o.directive.allowedOn o.element.kind && o.directive.fitsOnLine

/-- The line that an occurrence becomes, if it is accepted. -/
def line? (o : Occurrence) : Option Line :=
  if o.directive.fitsOnLine then Line.ofElement? o.element o.directive else none

/-- What is reported about an occurrence that is not accepted. A misplaced option is reported as
misplaced, whatever its value. -/
def error (o : Occurrence) : Diagnostic :=
  match o.directive with
  | .option value =>
    if o.directive.allowedOn o.element.kind then unfitting o.element value
    else misplaced o.element o.directive
  | _ => misplaced o.element o.directive

/-- The report of an occurrence that is not accepted. -/
def error? (o : Occurrence) : Option Diagnostic :=
  if o.isAccepted then none else some o.error

theorem isSome_line? (o : Occurrence) : o.line?.isSome = o.isAccepted := by
  unfold line? isAccepted
  by_cases hfits : o.directive.fitsOnLine = true
  · rw [if_pos hfits, hfits, Bool.and_true, Line.ofElement?]
    split
    · next hallowed =>
      rw [hallowed]
      split <;> rfl
    · next hallowed =>
      rw [Bool.not_eq_true] at hallowed
      rw [hallowed]
      rfl
  · rw [if_neg hfits]
    rw [Bool.not_eq_true] at hfits
    rw [hfits, Bool.and_false]
    rfl

theorem severity_error (o : Occurrence) : o.error.severity = .error := by
  unfold error
  split
  · split <;> rfl
  · rfl

end Occurrence

/-- The occurrences of an acceptance, in order. -/
def Acceptance.occurrences (a : Acceptance) : List Occurrence :=
  a.directives.map fun k => ⟨a.element, k⟩

/-- The occurrences of a round, in order. -/
def Round.occurrences (r : Round) : List Occurrence :=
  r.elements.flatMap Acceptance.occurrences

/-! ### Verdicts -/

/-- The error that a verdict reports. -/
def Verdict.error? : Verdict → Option Diagnostic
  | rejected error => some error
  | accepted _ _ => none

/-- The verdict on an occurrence: what was accepted before decides only whether there is a
warning. -/
theorem verdict_eq (element : Element) (before : List Directive) (k : Directive) :
    verdict element before k =
      match (Occurrence.mk element k).line? with
      | some line => .accepted (if k ∈ before then some (repeated element k) else none) line
      | none => .rejected (Occurrence.mk element k).error := by
  unfold verdict Occurrence.line? Occurrence.error
  dsimp only
  cases hline : Line.ofElement? element k with
  | none =>
    -- a misplaced directive, whether or not it fits on a line
    have hallowed : ¬ k.allowedOn element.kind = true := by
      intro hallowed
      rw [Line.ofElement?, if_pos hallowed] at hline
      split at hline <;> cases hline
    cases k with
    | option value =>
      rw [ite_self]
      dsimp only
      rw [if_neg hallowed]
    | _ => rfl
  | some line =>
    have hallowed := (Line.ofElement?_eq_some_iff.1 hline).1
    cases k with
    | option value =>
      by_cases hfits : (Directive.option value).fitsOnLine = true
      · simp only [if_pos hfits]
      · simp only [if_neg hfits, if_pos hallowed]
    | _ => rfl

theorem isAccepted_verdict (element : Element) (before : List Directive) (k : Directive) :
    (verdict element before k).isAccepted = (Occurrence.mk element k).isAccepted := by
  rw [verdict_eq, ← Occurrence.isSome_line?]
  split
  · next h => rw [h]; rfl
  · next h => rw [h]; rfl

theorem error?_verdict (element : Element) (before : List Directive) (k : Directive) :
    (verdict element before k).error? = (Occurrence.mk element k).error? := by
  rw [verdict_eq, Occurrence.error?, ← Occurrence.isSome_line?]
  split
  · next h => rw [h]; rfl
  · next h => rw [h]; rfl

/-- What counts as accepted before, after one more directive was judged. -/
def noted (element : Element) (before : List Directive) (k : Directive) : List Directive :=
  if (Occurrence.mk element k).isAccepted then k :: before else before

theorem mem_noted_iff {element : Element} {before : List Directive} {j k : Directive} :
    j ∈ noted element before k ↔
      j ∈ before ∨ (j = k ∧ (Occurrence.mk element k).isAccepted = true) := by
  unfold noted
  split
  · next h => rw [List.mem_cons, and_iff_left h, or_comm]
  · next h => rw [or_iff_left fun hk => h hk.2]

theorem judge_cons (element : Element) (before : List Directive) (k : Directive)
    (ks : List Directive) :
    judge element before (k :: ks) =
      verdict element before k :: judge element (noted element before k) ks := by
  rw [judge, isAccepted_verdict]
  rfl

/-- A property of all verdicts on directives of one element. -/
theorem map_judge {β : Type} {f : Verdict → β} {g : Occurrence → β} {element : Element}
    (h : ∀ before k, f (verdict element before k) = g ⟨element, k⟩) (before ks : List Directive) :
    (judge element before ks).map f = ks.map fun k => g ⟨element, k⟩ := by
  induction ks generalizing before with
  | nil => rfl
  | cons k ks ih => rw [judge_cons, List.map_cons, List.map_cons, ih, h]

namespace Round

/-- A property of all verdicts of a round, read off the occurrences. -/
theorem map_verdicts {β : Type} {f : Verdict → β} {g : Occurrence → β}
    (h : ∀ element before k, f (verdict element before k) = g ⟨element, k⟩) (r : Round) :
    r.verdicts.map f = r.occurrences.map g := by
  unfold verdicts occurrences
  rw [List.map_flatMap, List.map_flatMap]
  refine List.flatMap_congr fun a _ => ?_
  rw [Acceptance.verdicts, map_judge (h a.element), Acceptance.occurrences, List.map_map]
  rfl

theorem map_line?_verdicts (r : Round) :
    r.verdicts.map Verdict.line? = r.occurrences.map Occurrence.line? :=
  map_verdicts (fun element before k => line?_verdict element before k) r

theorem map_error?_verdicts (r : Round) :
    r.verdicts.map Verdict.error? = r.occurrences.map Occurrence.error? :=
  map_verdicts error?_verdict r

end Round

/-! ### What verdicts report -/

/-- A rejection is reported as an error, and an acceptance at most with a warning. -/
def Verdict.IsGraded : Verdict → Prop
  | rejected error => error.severity = .error
  | accepted warning? _ => ∀ d ∈ warning?, d.severity = .warning

theorem isGraded_verdict (element : Element) (before : List Directive) (k : Directive) :
    (verdict element before k).IsGraded := by
  rw [verdict_eq]
  split
  · intro d hd
    rw [Option.mem_def, Option.ite_none_right_eq_some] at hd
    rw [← Option.some.inj hd.2]
    rfl
  · exact Occurrence.severity_error _

theorem isGraded_of_mem_judge {element : Element} {before ks : List Directive} {v : Verdict}
    (h : v ∈ judge element before ks) : v.IsGraded := by
  induction ks generalizing before with
  | nil => cases h
  | cons k ks ih =>
    rw [judge_cons] at h
    rcases List.mem_cons.1 h with rfl | h
    · exact isGraded_verdict element before k
    · exact ih h

theorem Round.isGraded_of_mem_verdicts {r : Round} {v : Verdict} (h : v ∈ r.verdicts) :
    v.IsGraded := by
  obtain ⟨a, -, h⟩ := List.mem_flatMap.1 h
  exact isGraded_of_mem_judge h

end CompilerHints
