import CompilerHints.Proofs.Processing.Steps

/-!
# Sessions that differ in their diagnostics

What a session does and gives does not depend on the diagnostics that it gathered.

* `Session.AlikeUpTo`: the same processor and the same files.
* `AlikeUpTo.collect`, `AlikeUpTo.conclude`, `AlikeUpTo.process`: sessions stay alike.
-/

namespace CompilerHints

namespace Session

variable {s t : Session}

/-- Sessions with the same processor and the same files, and with their diagnostics in some
relation. -/
structure AlikeUpTo (related : Sink → Sink → Prop) (s t : Session) : Prop where
  processor : s.processor = t.processor
  files : s.files = t.files
  sink : related s.sink t.sink

namespace AlikeUpTo

variable {related : Sink → Sink → Prop}

theorem markFinished (h : AlikeUpTo related s t) :
    AlikeUpTo related s.markFinished t.markFinished where
  processor := by rw [Session.markFinished, Session.markFinished, h.processor]
  files := h.files
  sink := h.sink

/-- A line is collected alike. -/
theorem collect (h : AlikeUpTo related s t) (line : Line) :
    (s.collect line).1 = (t.collect line).1 ∧
      AlikeUpTo related (s.collect line).2 (t.collect line).2 := by
  unfold Session.collect
  rw [h.processor, h.files]
  exact ⟨rfl, rfl, rfl, h.sink⟩

/-- What a session concludes does not depend on its diagnostics. -/
theorem conclude (h : AlikeUpTo related s t) :
    s.conclude.1 = t.conclude.1 ∧ AlikeUpTo related s.conclude.2 t.conclude.2 := by
  have hsame : s.conclude.1 = t.conclude.1 ∧ s.conclude.2.files = t.conclude.2.files := by
    unfold Session.conclude
    rw [h.processor, h.files]
    dsimp only
    split
    · exact ⟨rfl, h.files⟩
    · split <;> exact ⟨rfl, rfl⟩
  refine ⟨hsame.1, ?_, hsame.2, ?_⟩
  · rw [processor_conclude, processor_conclude, h.processor]
  · rw [sink_conclude, sink_conclude]
    exact h.sink

theorem exists_of_eq {α : Type} {x y : α × Session} {result : α}
    (h : x.1 = y.1 ∧ AlikeUpTo related x.2 y.2) (hx : x = (result, s)) :
    ∃ t, y = (result, t) ∧ AlikeUpTo related s t := by
  subst hx
  exact ⟨y.2, Prod.ext h.1.symm rfl, h.2⟩

/-- Rounds whose verdicts are carried out alike are taken alike. -/
theorem process {round round' : Round}
    (h : AlikeUpTo related s t)
    (hcarry : (s.carryOut round.verdicts).1 = (t.carryOut round'.verdicts).1 ∧
      AlikeUpTo related (s.carryOut round.verdicts).2 (t.carryOut round'.verdicts).2)
    (hfinal : round.isFinal = round'.isFinal) :
    (s.process round).1 = (t.process round').1 ∧
      AlikeUpTo related (s.process round).2 (t.process round').2 := by
  have hsimulated : ∃ t', t.Takes round' (s.process round).1 t' ∧
      AlikeUpTo related (s.process round).2 t' := by
    cases hprocess : s.process round with
    | mk result s' =>
      cases Takes.of_process_eq hprocess with
      | refused hclosed => exact ⟨t, .refused (h.processor ▸ hclosed), h⟩
      | aborted hopen hs =>
        obtain ⟨t', ht, halike⟩ := exists_of_eq hcarry hs
        exact ⟨t', .aborted (h.processor ▸ hopen) ht, halike⟩
      | continued hopen hs hmore =>
        obtain ⟨t', ht, halike⟩ := exists_of_eq hcarry hs
        exact ⟨t', .continued (h.processor ▸ hopen) ht (hfinal ▸ hmore), halike⟩
      | reported hopen hs hover hu =>
        obtain ⟨v, ht, halike⟩ := exists_of_eq hcarry hs
        obtain ⟨t', hv, halike⟩ := exists_of_eq halike.markFinished.conclude hu
        exact ⟨t', .reported (h.processor ▸ hopen) ht (hfinal ▸ hover) hv, halike⟩
      | unwritten hopen hs hover hu =>
        obtain ⟨v, ht, halike⟩ := exists_of_eq hcarry hs
        obtain ⟨t', hv, halike⟩ := exists_of_eq halike.markFinished.conclude hu
        exact ⟨t', .unwritten (h.processor ▸ hopen) ht (hfinal ▸ hover) hv, halike⟩
  obtain ⟨t', htakes, halike⟩ := hsimulated
  rw [htakes.process_eq]
  exact ⟨rfl, halike⟩

end AlikeUpTo

end Session

end CompilerHints
