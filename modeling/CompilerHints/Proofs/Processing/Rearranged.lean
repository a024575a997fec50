import CompilerHints.Proofs.Artifact
import CompilerHints.Proofs.Processing.Alike
import CompilerHints.Proofs.Sink
import Mathlib.Data.List.Perm.Basic

/-!
# Order does not matter

The elements of an input may come in any order and in any rounds, and the directives of an element
in any order, one by one or many option values at once: a run that writes an artifact comes to the
same, but for the order of its diagnostics. Only the warnings about repetitions depend on what came
before, and there is one for each occurrence of a directive after the first, whichever that is.

* `Acceptance.SameDirectives`, `Rearranged`: acceptances with the same directives.
* `judge_perm`: the verdicts on directives in another order are the same in another order.
* `Sink.Reordered`, `Session.record_perm`: what is recorded.
* `Session.run_rearranged`: runs over rearranged inputs.
-/

namespace CompilerHints

/-! ### Rearranged inputs -/

/-- The same element with the same directives in some order. -/
structure Acceptance.SameDirectives (a b : Acceptance) : Prop where
  element : a.element = b.element
  directives : a.directives.Perm b.directives

/-- What is attached may be permuted. -/
theorem Acceptance.sameDirectives_of_perm {element : Element} {xs ys : List Attachment}
    (h : xs.Perm ys) : SameDirectives ⟨element, xs⟩ ⟨element, ys⟩ where
  element := rfl
  directives := h.flatMap_right _

/-- Option values may be attached one by one or many at once. -/
theorem Acceptance.sameDirectives_of_expand_eq {element : Element} {xs ys : List Attachment}
    (h : xs.flatMap Attachment.expand = ys.flatMap Attachment.expand) :
    SameDirectives ⟨element, xs⟩ ⟨element, ys⟩ where
  element := rfl
  directives := by
    show (xs.flatMap Attachment.expand).Perm (ys.flatMap Attachment.expand)
    rw [h]

/-- The same acceptances in some order, each with its directives in some order. -/
def Rearranged (as bs : List Acceptance) : Prop :=
  ∃ cs, as.Perm cs ∧ List.Forall₂ Acceptance.SameDirectives cs bs

/-! ### Verdicts -/

/-- A verdict depends on what was accepted before only by whether the directive itself was. -/
theorem verdict_congr (element : Element) {before before' : List Directive} {k : Directive}
    (h : k ∈ before ↔ k ∈ before') : verdict element before k = verdict element before' k := by
  rw [verdict_eq, verdict_eq]
  simp only [h]

/-- Verdicts depend only on which directives were accepted before, not on their order. -/
theorem judge_congr {element : Element} {before before' : List Directive}
    (h : ∀ k, k ∈ before ↔ k ∈ before') (ks : List Directive) :
    judge element before ks = judge element before' ks := by
  induction ks generalizing before before' with
  | nil => rfl
  | cons k ks ih =>
    have hnoted (j : Directive) : j ∈ noted element before k ↔ j ∈ noted element before' k := by
      rw [mem_noted_iff, mem_noted_iff, h]
    rw [judge_cons, judge_cons, verdict_congr element (h k), ih hnoted]

/-- The verdicts on directives in another order are the same in another order. -/
theorem judge_perm {element : Element} {ks ks' : List Directive} (h : ks.Perm ks')
    (before : List Directive) : (judge element before ks).Perm (judge element before ks') := by
  induction h generalizing before with
  | nil => exact .refl _
  | cons k _ ih =>
    rw [judge_cons, judge_cons]
    exact (ih (noted element before k)).cons _
  | swap j k ks =>
    by_cases hjk : j = k
    · -- the first of the two gets no warning for the second, whichever it is
      rw [hjk]
    · -- neither counts for the other, so both verdicts are what they were
      have hj : j ∈ noted element before k ↔ j ∈ before := by
        rw [mem_noted_iff, or_iff_left fun h => hjk h.1]
      have hk : k ∈ noted element before j ↔ k ∈ before := by
        rw [mem_noted_iff, or_iff_left fun h => hjk h.1.symm]
      have hrest (i : Directive) : i ∈ noted element (noted element before k) j ↔
          i ∈ noted element (noted element before j) k := by
        simp only [mem_noted_iff]
        exact or_right_comm
      rw [judge_cons, judge_cons, judge_cons, judge_cons, verdict_congr element hj,
        verdict_congr element hk, judge_congr hrest]
      exact .swap _ _ _
  | trans _ _ ih ih' => exact (ih before).trans (ih' before)

theorem Acceptance.SameDirectives.verdicts_perm {a b : Acceptance} (h : a.SameDirectives b) :
    a.verdicts.Perm b.verdicts := by
  rw [Acceptance.verdicts, Acceptance.verdicts, h.element]
  exact judge_perm h.directives []

/-- The verdicts on rearranged acceptances are the same in another order. -/
theorem Rearranged.verdicts_perm {as bs : List Acceptance} (h : Rearranged as bs) :
    (as.flatMap Acceptance.verdicts).Perm (bs.flatMap Acceptance.verdicts) := by
  obtain ⟨cs, hperm, hsame⟩ := h
  have hsame : (cs.flatMap Acceptance.verdicts).Perm (bs.flatMap Acceptance.verdicts) := by
    induction hsame generalizing as with
    | nil => exact .refl _
    | cons hab _ ih =>
      rw [List.flatMap_cons, List.flatMap_cons]
      exact hab.verdicts_perm.append (ih (.refl _))
  exact (hperm.flatMap_right _).trans hsame

/-! ### Sessions -/

/-- The same diagnostics in some order. -/
structure Sink.Reordered (a b : Sink) : Prop where
  diagnostics : a.diagnostics.Perm b.diagnostics
  errors : a.errors = b.errors
  warnings : a.warnings = b.warnings

theorem Sink.reordered_emitAll (s : Sink) {a b : List Diagnostic} (h : a.Perm b) :
    (s.emitAll a).Reordered (s.emitAll b) where
  diagnostics := by
    rw [diagnostics_emitAll, diagnostics_emitAll]
    exact h.append_left _
  errors := by rw [errors_emitAll, errors_emitAll, h.countP_eq]
  warnings := by rw [warnings_emitAll, warnings_emitAll, h.countP_eq]

namespace Session

/-- Verdicts may be recorded in any order. -/
theorem record_perm (s : Session) {a b : List Verdict} (h : a.Perm b) :
    AlikeUpTo Sink.Reordered (s.record a) (s.record b) where
  processor := by
    have hlines := h.filterMap Verdict.line?
    simp only [record, Collector.record, hlines.length_eq,
      CommandSet.insertTexts_perm _ (hlines.map Line.text)]
  files := rfl
  sink := Sink.reordered_emitAll s.sink (h.filterMap Verdict.diagnostic?)

/-- Runs over rearranged inputs that write an artifact to the same files come to the same report or
fail alike, leave the same files, and report the same in some order. If there is a report, the
artifact is there, with the same bytes. -/
theorem run_rearranged {path : Path} {charset : Charset} {fs : FileSystem}
    {rounds rounds' : List Round} (hrounds : OnlyLastIsFinal rounds)
    (hrounds' : OnlyLastIsFinal rounds')
    (h : Rearranged (acceptances rounds) (acceptances rounds')) :
    let first := (start ⟨.artifact path, charset⟩ fs).run rounds
    let second := (start ⟨.artifact path, charset⟩ fs).run rounds'
    first.1 = second.1 ∧ AlikeUpTo Sink.Reordered first.2 second.2 ∧
      ∀ report, first.1 = .ok report → ∃ bytes,
        first.2.files.read? path = some bytes ∧ second.2.files.read? path = some bytes ∧
          report.output = .artifact path bytes.length := by
  intro first second
  have hverdicts : (rounds.flatMap Round.verdicts).Perm (rounds'.flatMap Round.verdicts) := by
    rw [flatMap_verdicts_eq, flatMap_verdicts_eq]
    exact h.verdicts_perm
  have hmem := keepsInMemory_start path charset fs
  have hfirst : first = _ := run_eq_conclude hmem rfl hrounds
  have hsecond : second = _ := run_eq_conclude hmem rfl hrounds'
  obtain ⟨hresult, halike⟩ := (record_perm _ hverdicts).markFinished.conclude
  rw [← hfirst, ← hsecond] at hresult halike
  refine ⟨hresult, halike, fun report hreport => ?_⟩
  have hrun : first = (.ok report, first.2) := Prod.ext hreport rfl
  obtain ⟨count, hwrite, rfl⟩ := run_start_eq_ok rfl hrun
  obtain ⟨bytes, hencode, hread⟩ := read?_of_writeArtifact hwrite
  refine ⟨bytes, hread, halike.files ▸ hread, ?_⟩
  rw [length_of_writeArtifact hencode hwrite]

/-- One round, and two rounds with the same elements in the other order: option values are attached
one by one, and two misplaced directives change places. -/
theorem run_rearranged_in_two_rounds :
    let method : Element := .method { owner := "a.B", name := "m" }
    let field : Element := .field "a.B" "f"
    let together : List Round :=
      [{ elements := [⟨field, [.single .log, .single .print]⟩,
          ⟨method, [.single .inline, .options ["x", "y"], .single .inline]⟩], isFinal := true }]
    let apart : List Round :=
      [{ elements := [⟨method, [.single .inline, .single (.option "x"), .single (.option "y"),
          .single .inline]⟩] },
        { elements := [⟨field, [.single .print, .single .log]⟩], isFinal := true }]
    let fresh := start ⟨.artifact ⟨"o"⟩, .utf8⟩ (.inDirectory [])
    ∃ report s t, fresh.run together = (.ok report, s) ∧ fresh.run apart = (.ok report, t) ∧
      AlikeUpTo Sink.Reordered s t ∧ s.sink.diagnostics ≠ t.sink.diagnostics := by
  intro method field together apart fresh
  have hrearranged : Rearranged (acceptances together) (acceptances apart) := by
    refine ⟨_, .swap _ _ _, .cons ?_ (.cons ?_ .nil)⟩
    · exact Acceptance.sameDirectives_of_expand_eq rfl
    · exact Acceptance.sameDirectives_of_perm (.swap _ _ _)
  obtain ⟨hresult, halike, -⟩ :
      (fresh.run together).1 = (fresh.run apart).1 ∧
        AlikeUpTo Sink.Reordered (fresh.run together).2 (fresh.run apart).2 ∧ _ :=
    run_rearranged (by decide) (by decide) hrearranged
  have hok : (fresh.run together).1 = .ok ⟨4, 3, false, .artifact ⟨"o"⟩ 58⟩ := by decide +kernel
  have hdiffer :
      (fresh.run together).2.sink.diagnostics ≠ (fresh.run apart).2.sink.diagnostics := by
    decide +kernel
  obtain ⟨s, hs⟩ := exists_run_eq hok
  obtain ⟨t, ht⟩ := exists_run_eq (hresult.symm.trans hok)
  rw [hs, ht] at halike hdiffer
  exact ⟨_, s, t, hs, ht, halike, hdiffer⟩

end Session

end CompilerHints
