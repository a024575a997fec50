import CompilerHints.Proofs.Processing.Occurrences

/-!
# The fates of occurrences

An occurrence of a directive takes its turn among the directives of its acceptance, and exactly one
of four things becomes of it. Only what was accepted on a turn before it counts as a repetition.

* `Turn`, `Acceptance.turns`: an occurrence with the directives that stand before it.
* `Fate`, `Turn.fate`: what becomes of an occurrence.
* `Turn.report?`: what is reported about it.
* `Round.map_diagnostic?_verdicts`: the verdicts of a round report what is said of its turns.
* `Acceptance.exists_fresh`: what is accepted was accepted for a first time.
-/

namespace CompilerHints

/-! ### Turns -/

/-- An occurrence of a directive, with the directives that stand before it on the acceptance. -/
structure Turn extends Occurrence where
  earlier : List Directive
deriving DecidableEq, Repr

/-- What can become of an occurrence. -/
inductive Fate where
  /-- Its element cannot carry it. -/
  | misplaced
  /-- It is an option whose value does not fit on one line. -/
  | unfitting
  /-- It is accepted, and so was the same directive before on the acceptance. -/
  | repeated
  /-- It is accepted for the first time. -/
  | fresh
deriving DecidableEq, Repr

/-- Whether a fate is to be accepted. -/
def Fate.isAccepted : Fate → Bool
  | misplaced => false
  | unfitting => false
  | repeated => true
  | fresh => true

/-- The severity and the code of what is reported. -/
def Fate.code? : Fate → Option (Severity × Code)
  | misplaced => some (.error, invalidPlacement)
  | unfitting => some (.error, invalidOption)
  | repeated => some (.warning, repeatedDirective)
  | fresh => none

/-- The value of an option. -/
def Directive.value : Directive → String
  | option value => value
  | _ => ""

namespace Turn

/-- The directives that were accepted before on the acceptance. -/
def acceptedEarlier (t : Turn) : List Directive :=
  t.earlier.filter fun k => (Occurrence.mk t.element k).isAccepted

/-- What becomes of an occurrence. A misplaced option is misplaced, whatever its value. -/
def fate (t : Turn) : Fate :=
  if t.directive.allowedOn t.element.kind = false then .misplaced
  else if t.directive.fitsOnLine = false then .unfitting
  else if t.directive ∈ t.acceptedEarlier then .repeated
  else .fresh

/-- What is reported about an occurrence. -/
def report? (t : Turn) : Option Diagnostic :=
  match t.fate with
  | .misplaced => some (misplaced t.element t.directive)
  | .unfitting => some (unfitting t.element t.directive.value)
  | .repeated => some (repeated t.element t.directive)
  | .fresh => none

theorem isAccepted_fate (t : Turn) : t.fate.isAccepted = t.isAccepted := by
  unfold fate Occurrence.isAccepted
  cases t.directive.allowedOn t.element.kind with
  | false => rfl
  | true =>
    cases t.directive.fitsOnLine with
    | false => rfl
    | true =>
      by_cases h : t.directive ∈ t.acceptedEarlier <;> simp [h, Fate.isAccepted]

/-- What is accepted and does not stand before is accepted for the first time. -/
theorem fate_eq_fresh {t : Turn} (haccepted : t.isAccepted = true)
    (hnew : t.directive ∉ t.earlier) : t.fate = .fresh := by
  obtain ⟨hallowed, hfits⟩ := Bool.and_eq_true_iff.1 haccepted
  have hearlier : t.directive ∉ t.acceptedEarlier := fun h => hnew (List.mem_filter.1 h).1
  simp [fate, hallowed, hfits, hearlier]

/-- A report has the severity and the code of the fate, and is located at the element. -/
theorem report?_eq_some {t : Turn} {d : Diagnostic} (h : t.report? = some d) :
    t.fate.code? = some (d.severity, d.code) ∧ d.location = some t.element.scope := by
  unfold report? at h
  split at h <;> cases h
  all_goals
    next hfate => exact ⟨by rw [hfate]; rfl, rfl⟩

/-- Nothing is reported about an occurrence that is accepted for the first time. -/
theorem report?_eq_none_iff {t : Turn} : t.report? = none ↔ t.fate = .fresh := by
  unfold report?
  cases t.fate <;> simp

end Turn

/-- The occurrences of an acceptance, each with the directives before it. -/
def Acceptance.turns (a : Acceptance) : List Turn :=
  a.directives.mapIdx fun i k => ⟨⟨a.element, k⟩, a.directives.take i⟩

/-- The occurrences of a round, each with the directives before it on its acceptance. -/
def Round.turns (r : Round) : List Turn :=
  r.elements.flatMap Acceptance.turns

theorem Acceptance.map_toOccurrence_turns (a : Acceptance) :
    a.turns.map Turn.toOccurrence = a.occurrences := by
  refine List.ext_getElem? fun i => ?_
  simp [turns, occurrences, Function.comp_def]

/-- There is one turn for each occurrence, in order. -/
theorem Round.map_toOccurrence_turns (r : Round) :
    r.turns.map Turn.toOccurrence = r.occurrences := by
  rw [turns, List.map_flatMap, occurrences]
  exact List.flatMap_congr fun a _ => a.map_toOccurrence_turns

theorem Acceptance.mem_turns_iff {a : Acceptance} {t : Turn} :
    t ∈ a.turns ↔ ∃ i, ∃ h : i < a.directives.length,
      t = ⟨⟨a.element, a.directives[i]⟩, a.directives.take i⟩ := by
  simp [turns, List.mem_mapIdx, eq_comm]

/-- What is accepted on an acceptance was accepted for a first time. -/
theorem Acceptance.exists_fresh {a : Acceptance} {t : Turn} (ht : t ∈ a.turns)
    (haccepted : t.isAccepted = true) :
    ∃ u ∈ a.turns, u.fate = .fresh ∧ u.toOccurrence = t.toOccurrence := by
  obtain ⟨i, hi, rfl⟩ := mem_turns_iff.1 ht
  have hmem : a.directives[i] ∈ a.directives := List.getElem_mem hi
  have hfirst := List.idxOf_lt_length_of_mem hmem
  refine ⟨⟨⟨a.element, a.directives[i]⟩, a.directives.take (a.directives.idxOf a.directives[i])⟩,
    mem_turns_iff.2 ⟨_, hfirst, by rw [List.getElem_idxOf]⟩, ?_, rfl⟩
  refine Turn.fate_eq_fresh haccepted fun hbefore => ?_
  have hlt := (List.mem_take_iff_idxOf_lt hmem).1 hbefore
  exact absurd hlt (Nat.lt_irrefl _)

/-! ### Verdicts -/

/-- What a verdict reports, given what was accepted on the turns before it. -/
theorem diagnostic?_verdict {t : Turn} {before : List Directive}
    (h : ∀ k, k ∈ before ↔ k ∈ t.acceptedEarlier) :
    (verdict t.element before t.directive).diagnostic? = t.report? := by
  rw [verdict_eq]
  have hsome := t.toOccurrence.isSome_line?
  cases hline : t.toOccurrence.line? with
  | some line =>
    rw [hline, eq_comm, Option.isSome_some, Occurrence.isAccepted, Bool.and_eq_true] at hsome
    have hbefore := h t.directive
    by_cases hrepeated : t.directive ∈ t.acceptedEarlier <;>
      simp [Turn.report?, Turn.fate, hsome, hrepeated, hbefore, Verdict.diagnostic?]
  | none =>
    rw [hline, eq_comm, Option.isSome_none, Occurrence.isAccepted] at hsome
    obtain ⟨⟨element, k⟩, earlier⟩ := t
    cases hallowed : k.allowedOn element.kind with
    | false =>
      cases k <;> simp [Turn.report?, Turn.fate, hallowed, Verdict.diagnostic?, Occurrence.error]
    | true =>
      cases k with
      | option value =>
        have hfits : (Directive.option value).fitsOnLine = false := by
          simpa [hallowed] using hsome
        simp [Turn.report?, Turn.fate, hallowed, hfits, Verdict.diagnostic?, Occurrence.error,
          Directive.value]
      | _ => simp [hallowed, Directive.fitsOnLine] at hsome

/-- The verdicts on directives report what is said of their turns, if what counts as accepted before
is what was accepted on earlier turns. -/
theorem map_diagnostic?_judge {element : Element} {before earlier : List Directive}
    (ks : List Directive)
    (h : ∀ k, k ∈ before ↔ k ∈ earlier ∧ (Occurrence.mk element k).isAccepted = true) :
    (judge element before ks).map Verdict.diagnostic? =
      ks.mapIdx fun i k => (Turn.mk ⟨element, k⟩ (earlier ++ ks.take i)).report? := by
  induction ks generalizing before earlier with
  | nil => rfl
  | cons k ks ih =>
    have hnoted : ∀ k', k' ∈ noted element before k ↔
        k' ∈ earlier ++ [k] ∧ (Occurrence.mk element k').isAccepted = true := fun k' => by
      rw [mem_noted_iff, h, List.mem_append, List.mem_singleton, or_and_right]
      exact or_congr_right (and_congr_right fun e => by rw [e])
    have hturn : (verdict element before k).diagnostic? =
        (Turn.mk ⟨element, k⟩ earlier).report? :=
      diagnostic?_verdict (t := ⟨⟨element, k⟩, earlier⟩) fun k' => by
        rw [h, Turn.acceptedEarlier, List.mem_filter]
    rw [judge_cons, List.map_cons, ih hnoted, List.mapIdx_cons, hturn]
    simp

theorem Acceptance.map_diagnostic?_verdicts (a : Acceptance) :
    a.verdicts.map Verdict.diagnostic? = a.turns.map Turn.report? := by
  have hnone : ∀ k, k ∈ ([] : List Directive) ↔
      k ∈ ([] : List Directive) ∧ (Occurrence.mk a.element k).isAccepted = true := by simp
  rw [verdicts, map_diagnostic?_judge a.directives hnone, turns]
  refine List.ext_getElem? fun i => ?_
  simp [Function.comp_def]

/-- The verdicts of a round report what is said of its turns, in order. -/
theorem Round.map_diagnostic?_verdicts (r : Round) :
    r.verdicts.map Verdict.diagnostic? = r.turns.map Turn.report? := by
  rw [verdicts, turns, List.map_flatMap, List.map_flatMap]
  exact List.flatMap_congr fun a _ => a.map_diagnostic?_verdicts

end CompilerHints
