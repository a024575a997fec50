import CompilerHints.Processing.Verdict
import CompilerHints.Proofs.LineText

/-!
# Accepted directives

What a processor makes of its rounds, said without going through them: a directive is accepted if
its element can carry it and it fits on a line.

* `Acceptance.Accepts`: a directive of an acceptance that is accepted.
* `mem_acceptedLines_iff`: the lines of the accepted verdicts are those of the accepted directives.
* `AcceptedOn`: a directive other than `quiet` is accepted on a declaration somewhere in the rounds.
* `mem_acceptedTexts_iff_of_ne_quietText`: the texts of the lines other than `quiet`.
-/

namespace CompilerHints

/-- A directive that is attached to an element which can carry it, and that fits on a line. -/
structure Acceptance.Accepts (a : Acceptance) (k : Directive) : Prop where
  attached : k ∈ a.directives
  allowed : k.allowedOn a.element.kind = true
  fits : k.fitsOnLine = true

namespace Verdict

/-- The line that an accepted directive becomes. -/
def line? : Verdict → Option Line
  | rejected _ => none
  | accepted _ line => some line

/-- The diagnostic that a verdict reports. -/
def diagnostic? : Verdict → Option Diagnostic
  | rejected error => some error
  | accepted warning? _ => warning?

end Verdict

/-- A line for a directive on an element is a line of the element's declaration, or a `quiet` of its
scope where there is no declaration. -/
theorem Line.ofElement?_eq_some_iff {element : Element} {k : Directive} {line : Line} :
    Line.ofElement? element k = some line ↔
      k.allowedOn element.kind = true ∧
        ((∃ d, element.declaration? = some d ∧ line = .member d k) ∨
          (element.declaration? = none ∧ k = .quiet ∧ line = .quietScope element.scope)) := by
  unfold Line.ofElement?
  cases hallowed : k.allowedOn element.kind with
  | false => simp
  | true =>
    cases element with
    | method d => simp [Element.declaration?, eq_comm]
    | constructor owner parameters => simp [Element.declaration?, eq_comm]
    | package _ => simp [Element.declaration?, Directive.isQuiet_iff.1 hallowed, eq_comm]
    | type _ => simp [Element.declaration?, Directive.isQuiet_iff.1 hallowed, eq_comm]
    | field _ _ => cases hallowed
    | parameter _ _ => cases hallowed

/-- The verdict on a directive gives a line exactly if it is accepted, whatever was accepted
before on the element. -/
theorem line?_verdict (element : Element) (before : List Directive) (k : Directive) :
    (verdict element before k).line? =
      if k.fitsOnLine then Line.ofElement? element k else none := by
  unfold verdict
  cases hline : Line.ofElement? element k with
  | none => simp [Verdict.line?]
  | some line =>
    cases k with
    | option value =>
      cases hfits : (Directive.option value).fitsOnLine with
      | true => rfl
      | false => rfl
    | _ => rfl

/-- The lines of verdicts on directives of one element. -/
theorem filterMap_line?_judge (element : Element) (before ks : List Directive) :
    (judge element before ks).filterMap Verdict.line? =
      ks.filterMap fun k => if k.fitsOnLine then Line.ofElement? element k else none := by
  induction ks generalizing before with
  | nil => rfl
  | cons k ks ih => rw [judge, List.filterMap_cons, List.filterMap_cons, ih, line?_verdict]

/-- The lines that rounds contribute, in order and with repetitions. -/
def acceptedLines (rounds : List Round) : List Line :=
  (rounds.flatMap Round.verdicts).filterMap Verdict.line?

/-- The acceptances of rounds. -/
def acceptances (rounds : List Round) : List Acceptance :=
  rounds.flatMap Round.elements

theorem flatMap_verdicts_eq (rounds : List Round) :
    rounds.flatMap Round.verdicts = (acceptances rounds).flatMap Acceptance.verdicts := by
  rw [acceptances, List.flatMap_assoc]
  rfl

/-- The lines of the accepted verdicts are those of the accepted directives. -/
theorem mem_acceptedLines_iff {rounds : List Round} {line : Line} :
    line ∈ acceptedLines rounds ↔
      ∃ a ∈ acceptances rounds, ∃ k, a.Accepts k ∧ Line.ofElement? a.element k = some line := by
  rw [acceptedLines, flatMap_verdicts_eq, List.filterMap_flatMap]
  simp only [List.mem_flatMap, Acceptance.verdicts, filterMap_line?_judge, List.mem_filterMap]
  refine exists_congr fun a => and_congr_right fun _ => exists_congr fun k => ?_
  constructor
  · rintro ⟨hk, hline⟩
    split at hline
    · next hfits => exact ⟨⟨hk, (Line.ofElement?_eq_some_iff.1 hline).1, hfits⟩, hline⟩
    · cases hline
  · rintro ⟨⟨hk, -, hfits⟩, hline⟩
    exact ⟨hk, by rw [if_pos hfits, hline]⟩

/-- A directive other than `quiet` is accepted on a declaration somewhere in the rounds. -/
def AcceptedOn (rounds : List Round) (d : Declaration) (k : Directive) : Prop :=
  k ≠ .quiet ∧ ∃ a ∈ acceptances rounds, a.Accepts k ∧ a.element.declaration? = some d

theorem Directive.lineFeed_not_mem_suffix {k : Directive} (h : k.fitsOnLine = true) :
    '\n' ∉ k.suffix.toList := by
  cases k with
  | option value =>
    simp only [fitsOnLine, Bool.and_eq_true, Bool.not_eq_true', List.contains_eq_mem,
      decide_eq_false_iff_not] at h
    rw [suffix, String.toList_append, List.mem_append]
    rintro (e | e)
    · exact absurd e (by decide)
    · exact h.1.2 e
  | _ => simp [suffix]

theorem AcceptedOn.lineFeed_not_mem_suffix {rounds : List Round} {d : Declaration} {k : Directive}
    (h : AcceptedOn rounds d k) : '\n' ∉ k.suffix.toList := by
  obtain ⟨-, a, -, hacc, -⟩ := h
  exact Directive.lineFeed_not_mem_suffix hacc.fits

/-- The lines other than `quiet` are those of the directives accepted on declarations. -/
theorem mem_acceptedLines_and_not_isQuiet_iff {rounds : List Round} {line : Line} :
    line ∈ acceptedLines rounds ∧ line.isQuiet = false ↔
      ∃ d k, AcceptedOn rounds d k ∧ line = .member d k := by
  rw [mem_acceptedLines_iff]
  constructor
  · rintro ⟨⟨a, ha, k, hacc, hline⟩, hquiet⟩
    obtain ⟨-, ⟨d, hd, rfl⟩ | ⟨-, -, rfl⟩⟩ := Line.ofElement?_eq_some_iff.1 hline
    · exact ⟨d, k, ⟨Line.isQuiet_member_eq_false_iff.1 hquiet, a, ha, hacc, hd⟩, rfl⟩
    · cases hquiet
  · rintro ⟨d, k, ⟨hk, a, ha, hacc, hd⟩, rfl⟩
    exact ⟨⟨a, ha, k, hacc, Line.ofElement?_eq_some_iff.2 ⟨hacc.allowed, .inl ⟨d, hd, rfl⟩⟩⟩,
      Line.isQuiet_member_eq_false_iff.2 hk⟩

/-- The texts of the lines that rounds contribute. -/
def acceptedTexts (rounds : List Round) : List String :=
  (acceptedLines rounds).map Line.text

/-- The texts other than `quiet` are those of the directives accepted on declarations. -/
theorem mem_acceptedTexts_iff_of_ne_quietText {rounds : List Round} {t : String}
    (ht : t ≠ quietText) :
    t ∈ acceptedTexts rounds ↔ ∃ d k, AcceptedOn rounds d k ∧ t = (Line.member d k).text := by
  rw [acceptedTexts, List.mem_map]
  constructor
  · rintro ⟨line, hline, rfl⟩
    have hquiet : line.isQuiet = false := by
      rw [← Bool.not_eq_true, ← Line.text_eq_quietText_iff]
      exact ht
    obtain ⟨d, k, hacc, rfl⟩ := mem_acceptedLines_and_not_isQuiet_iff.1 ⟨hline, hquiet⟩
    exact ⟨d, k, hacc, rfl⟩
  · rintro ⟨d, k, hacc, rfl⟩
    exact ⟨_, (mem_acceptedLines_and_not_isQuiet_iff.2 ⟨d, k, hacc, rfl⟩).1, rfl⟩

theorem AcceptedOn.text_mem {rounds : List Round} {d : Declaration} {k : Directive}
    (h : AcceptedOn rounds d k) : (Line.member d k).text ∈ acceptedTexts rounds :=
  (mem_acceptedTexts_iff_of_ne_quietText (Line.member_text_ne_quietText h.1)).2 ⟨d, k, h, rfl⟩

/-- What is accepted in a round with one method: its directives that fit on a line. -/
theorem acceptedOn_method_iff {d e : Declaration} {attachments : List Attachment} {isFinal : Bool}
    {k : Directive} :
    AcceptedOn [{ elements := [⟨.method d, attachments⟩], isFinal }] e k ↔
      k ≠ .quiet ∧ k ∈ attachments.flatMap Attachment.expand ∧ k.fitsOnLine = true ∧ d = e := by
  unfold AcceptedOn
  refine and_congr_right fun _ => ?_
  constructor
  · rintro ⟨a, ha, hacc, hd⟩
    cases List.mem_singleton.1 ha
    exact ⟨hacc.attached, hacc.fits, Option.some.inj hd⟩
  · rintro ⟨hattached, hfits, rfl⟩
    exact ⟨⟨.method d, attachments⟩, List.mem_cons_self, ⟨hattached, rfl, hfits⟩, rfl⟩

end CompilerHints
