import CompilerHints.Proofs.Processing.Steps

/-!
# How a run is cut into rounds

A processor remembers something about one element while it goes through its directives, and
something about the whole run, but nothing about a round. So it does not matter how the elements are
cut into rounds, nor whether the last round is marked as final or the run is finished afterwards.

* `Round.whole`: one final round with the elements of many rounds.
* `Session.takes_run`: whatever becomes of a run can become of this round.
* `Session.process_whole`: a run and its single round.
-/

namespace CompilerHints

/-- The final round that brings the elements of many rounds at once. -/
def Round.whole (rounds : List Round) : Round where
  elements := acceptances rounds
  isFinal := true

theorem Round.verdicts_whole (rounds : List Round) :
    (whole rounds).verdicts = rounds.flatMap verdicts :=
  (flatMap_verdicts_eq rounds).symm

namespace Session

variable {s : Session} {rounds : List Round}

/-- Whatever becomes of a run is what becomes of a single final round with all elements. -/
theorem takes_run (hopen : s.processor.finished = false) (hrounds : OnlyLastIsFinal rounds) :
    s.Takes (.whole rounds) ((s.run rounds).1.map some) (s.run rounds).2 := by
  have hverdicts := Round.verdicts_whole rounds
  rw [run_eq_carryOut hopen hrounds, ← hverdicts]
  cases hcarry : s.carryOut (Round.whole rounds).verdicts with
  | mk result t =>
    cases result with
    | error failure => exact .aborted hopen hcarry
    | ok _ =>
      dsimp only
      cases hconclude : t.markFinished.conclude with
      | mk result u =>
        cases result with
        | ok report => exact .reported hopen hcarry rfl hconclude
        | error failure => exact .unwritten hopen hcarry rfl hconclude

/-- Rounds that are taken one after the other, with the run finished behind them unless the last one
was final, come to the same as one final round with all their elements: to the same report or
failure, with the same diagnostics in the same order, the same files and the same processor. -/
theorem process_whole (output : Output) (fs : FileSystem) (hrounds : OnlyLastIsFinal rounds) :
    let fresh := start output fs
    fresh.process (.whole rounds) = ((fresh.run rounds).1.map some, (fresh.run rounds).2) :=
  (takes_run rfl hrounds).process_eq

/-- Elements that come one by one, with empty rounds between them, and all at once: as fragments,
with a directory in the place of the second one, and with the end of the run left to be said. -/
theorem process_whole_of_four_rounds :
    let files : FileSystem :=
      ((FileSystem.inDirectory []).createDirectories ⟨"f/log-a.B3a3am202829V"⟩).1
    let method : Element := .method { owner := "a.B", name := "m" }
    let rounds : List Round :=
      [{ elements := [⟨method, [.single .inline, .single .inline]⟩] }, {},
        { elements := [⟨.field "a.B" "f", [.single .print]⟩, ⟨method, [.single .log]⟩] }, {}]
    let fresh := start ⟨.fragments ⟨"f"⟩, .utf8⟩ files
    ∃ t, fresh.process (.whole rounds) = (.error (.io ⟨"f/log-a.B3a3am202829V"⟩), t) ∧
      fresh.run rounds = (.error (.io ⟨"f/log-a.B3a3am202829V"⟩), t) ∧
      t.sink.diagnostics.length = 2 := by
  intro files method rounds fresh
  have hwhole : fresh.process (.whole rounds) =
      ((fresh.run rounds).1.map some, (fresh.run rounds).2) :=
    process_whole _ files (by decide)
  have hresult : (fresh.run rounds).1 = .error (.io ⟨"f/log-a.B3a3am202829V"⟩) := by
    decide +kernel
  have hsink : (fresh.run rounds).2.sink.diagnostics.length = 2 := by decide +kernel
  obtain ⟨t, ht⟩ := exists_run_eq hresult
  rw [ht] at hwhole hsink
  exact ⟨t, hwhole, ht, hsink⟩

end Session

end CompilerHints
