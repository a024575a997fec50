import CompilerHints.Proofs.Processing.Written

/-!
# Refused directives

Which directives a run reports as errors, said element by element and without verdicts: those on
elements that cannot carry them, and options without a value that fits on a line.

* `Attachment.Attaches`: the directives that an attachment stands for.
* `IsMisplaced`, `IsUnfit`: what is wrong with a directive.
* `HasRefused`: some directive in rounds is refused.
* `Session.hasErrors_iff_hasRefused`: a run with a report has errors exactly then.
-/

namespace CompilerHints

/-! ### What can be wrong -/

/-- A directive that is attached: by itself, or as an option with one of several values. -/
inductive Attachment.Attaches : Attachment → Directive → Prop
  | single (k : Directive) : Attaches (.single k) k
  | value {values : List String} {value : String} (h : value ∈ values) :
    Attaches (.options values) (.option value)

/-- An element that cannot carry a directive. -/
inductive IsMisplaced : Element → Directive → Prop
  | package {k : Directive} (h : k ≠ .quiet) (name : String) : IsMisplaced (.package name) k
  | type {k : Directive} (h : k ≠ .quiet) (name : String) : IsMisplaced (.type name) k
  | field (k : Directive) (owner name : String) : IsMisplaced (.field owner name) k
  | parameter (k : Directive) (owner name : String) : IsMisplaced (.parameter owner name) k

/-- An option whose value does not fit on a line. -/
inductive IsUnfit : Directive → Prop
  | empty : IsUnfit (.option "")
  | lineFeed {value : String} (h : '\n' ∈ value.toList) : IsUnfit (.option value)
  | carriageReturn {value : String} (h : '\r' ∈ value.toList) : IsUnfit (.option value)

/-- Some directive in rounds is refused. -/
def HasRefused (rounds : List Round) : Prop :=
  ∃ round ∈ rounds, ∃ a ∈ round.elements, ∃ attachment ∈ a.attachments, ∃ k,
    attachment.Attaches k ∧ (IsMisplaced a.element k ∨ IsUnfit k)

/-! ### What a run makes of it -/

theorem Attachment.mem_expand_iff {attachment : Attachment} {k : Directive} :
    k ∈ attachment.expand ↔ attachment.Attaches k := by
  constructor
  · intro h
    cases attachment with
    | single j =>
      rw [List.mem_singleton.1 h]
      exact .single j
    | options values =>
      obtain ⟨value, hvalue, rfl⟩ := List.mem_map.1 h
      exact .value hvalue
  · intro h
    cases h with
    | single => exact List.mem_cons_self
    | value hvalue => exact List.mem_map_of_mem hvalue

theorem isMisplaced_iff {element : Element} {k : Directive} :
    IsMisplaced element k ↔ k.allowedOn element.kind = false := by
  have hquiet : k.isQuiet = false ↔ k ≠ .quiet := by
    rw [← Bool.not_eq_true, Directive.isQuiet_iff]
  constructor
  · intro h
    cases h with
    | package h => exact hquiet.2 h
    | type h => exact hquiet.2 h
    | field => rfl
    | parameter => rfl
  · intro h
    cases element with
    | package name => exact .package (hquiet.1 h) name
    | type name => exact .type (hquiet.1 h) name
    | constructor owner parameters => cases h
    | method declaration => cases h
    | field owner name => exact .field k owner name
    | parameter owner name => exact .parameter k owner name

theorem isUnfit_iff {k : Directive} : IsUnfit k ↔ k.fitsOnLine = false := by
  constructor
  · intro h
    cases h with
    | empty => rfl
    | lineFeed h => simp [Directive.fitsOnLine, h]
    | carriageReturn h => simp [Directive.fitsOnLine, h]
  · intro h
    cases k with
    | option value =>
      simp only [Directive.fitsOnLine, Bool.and_eq_false_iff, Bool.not_eq_false',
        List.contains_eq_mem, decide_eq_true_iff, decide_eq_false_iff_not, not_not] at h
      obtain (rfl | hfeed) | hreturn := h
      · exact .empty
      · exact .lineFeed hfeed
      · exact .carriageReturn hreturn
    | _ => cases h

/-- An occurrence is refused if it is misplaced or does not fit on a line. -/
theorem Occurrence.isAccepted_eq_false_iff {o : Occurrence} :
    o.isAccepted = false ↔ IsMisplaced o.element o.directive ∨ IsUnfit o.directive := by
  rw [isAccepted, Bool.and_eq_false_iff, isMisplaced_iff, isUnfit_iff]

/-- The occurrences of a round are the directives that are attached to its elements. -/
theorem Round.mem_occurrences_iff {round : Round} {o : Occurrence} :
    o ∈ round.occurrences ↔ ∃ a ∈ round.elements, ∃ attachment ∈ a.attachments,
      attachment.Attaches o.directive ∧ o.element = a.element := by
  obtain ⟨element, k⟩ := o
  simp only [occurrences, Acceptance.occurrences, Acceptance.directives, List.mem_flatMap,
    List.mem_map, Occurrence.mk.injEq, Attachment.mem_expand_iff]
  refine exists_congr fun a => and_congr_right fun _ => ?_
  constructor
  · rintro ⟨_, ⟨attachment, hmem, hattaches⟩, rfl, rfl⟩
    exact ⟨attachment, hmem, hattaches, rfl⟩
  · rintro ⟨attachment, hmem, hattaches, rfl⟩
    exact ⟨k, ⟨attachment, hmem, hattaches⟩, rfl, rfl⟩

theorem hasRefused_iff {rounds : List Round} :
    HasRefused rounds ↔ ∃ o ∈ rounds.flatMap Round.occurrences, o.isAccepted = false := by
  simp only [HasRefused, List.mem_flatMap, Round.mem_occurrences_iff,
    Occurrence.isAccepted_eq_false_iff]
  constructor
  · rintro ⟨round, hround, a, ha, attachment, hmem, k, hattaches, hwrong⟩
    exact ⟨⟨a.element, k⟩, ⟨round, hround, a, ha, attachment, hmem, hattaches, rfl⟩, hwrong⟩
  · rintro ⟨⟨_, k⟩, ⟨round, hround, a, ha, attachment, hmem, hattaches, rfl⟩, hwrong⟩
    exact ⟨round, hround, a, ha, attachment, hmem, k, hattaches, hwrong⟩

/-- A run with a report has errors exactly if a directive is refused. -/
theorem Session.hasErrors_iff_hasRefused {output : Output} {fs : FileSystem} {rounds : List Round}
    {report : Report} {s : Session} (h : (start output fs).run rounds = (.ok report, s)) :
    s.sink.hasErrors = true ↔ HasRefused rounds := by
  have hfate (t : Turn) : t.fate = .misplaced ∨ t.fate = .unfitting ↔ t.isAccepted = false := by
    rw [← t.isAccepted_fate]
    cases t.fate <;> decide
  rw [hasErrors_iff_of_run h, hasRefused_iff]
  simp only [hfate, List.mem_flatMap, ← Round.map_toOccurrence_turns, List.mem_map]
  constructor
  · rintro ⟨t, ⟨round, hround, ht⟩, hrefused⟩
    exact ⟨t.toOccurrence, ⟨round, hround, t, ht, rfl⟩, hrefused⟩
  · rintro ⟨_, ⟨round, hround, t, ht, rfl⟩, hrefused⟩
    exact ⟨t, ⟨round, hround, ht⟩, hrefused⟩

end CompilerHints
