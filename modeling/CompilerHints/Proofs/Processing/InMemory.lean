import CompilerHints.Processing.Processor
import CompilerHints.Proofs.Collector
import CompilerHints.Proofs.Processing.Accepted

/-!
# Runs that keep everything in memory

While a processor keeps no fragments, no verdict can fail and none touches a file. A run that ends
with a report has carried out all verdicts of its rounds and then written the artifact, once.

* `Session.record`: a session after verdicts that were carried out in memory.
* `Session.carryOut_eq_record`: one step and many.
* `Session.run_eq_ok`: a run that ended with a report.
* `Session.run_start_eq_ok`: the same from the beginning, with the artifact that was written.
-/

namespace CompilerHints

namespace Session

/-- A session after verdicts that were carried out in memory. -/
def record (s : Session) (verdicts : List Verdict) : Session where
  processor := { s.processor with
    collector := s.processor.collector.record (verdicts.filterMap Verdict.line?) }
  sink := (verdicts.filterMap Verdict.diagnostic?).foldl Sink.emit s.sink
  files := s.files

/-- Whether a session keeps its lines in memory. -/
def KeepsInMemory (s : Session) : Prop :=
  s.processor.collector.fragments? = none

theorem record_append (s : Session) (a b : List Verdict) :
    s.record (a ++ b) = (s.record a).record b := by
  simp only [record, Collector.record, List.filterMap_append, List.map_append,
    CommandSet.insertTexts_append, List.length_append, List.foldl_append, Nat.add_assoc]

theorem record_rejected (s : Session) (error : Diagnostic) (rest : List Verdict) :
    s.record (.rejected error :: rest) = (s.emit error).record rest := rfl

theorem record_accepted (s : Session) (warning? : Option Diagnostic) (line : Line)
    (rest : List Verdict) :
    s.record (.accepted warning? line :: rest) =
      (record (warning?.elim s s.emit) [.accepted none line]).record rest := by
  cases warning? with
  | none => exact record_append s [_] rest
  | some warning => exact record_append s [_] rest

/-- One line is collected without fail. -/
theorem collect_inMemory {s : Session} (h : s.KeepsInMemory) (line : Line) :
    ∃ isNew, s.collect line = (.ok isNew, s.record [.accepted none line]) := by
  refine ⟨(s.processor.collector.commands.insertText line.text).1, ?_⟩
  simp only [collect, Collector.accept_inMemory h]
  rfl

/-- Verdicts are carried out in memory without fail. -/
theorem carryOut_eq_record {s : Session} (h : s.KeepsInMemory) (verdicts : List Verdict) :
    s.carryOut verdicts = (.ok (), s.record verdicts) := by
  induction verdicts generalizing s with
  | nil => rfl
  | cons v rest ih =>
    cases v with
    | rejected error =>
      rw [carryOut, record_rejected]
      exact ih h
    | accepted warning? line =>
      have hs : (warning?.elim s s.emit).KeepsInMemory := by cases warning? <;> exact h
      obtain ⟨isNew, hcollect⟩ := collect_inMemory hs line
      rw [carryOut, record_accepted, hcollect]
      exact ih hs

/-- A session that took the final round. -/
def markFinished (s : Session) : Session :=
  { s with processor := { s.processor with finished := true } }

/-- A round in memory: its verdicts are carried out, and the final round writes the artifact. -/
theorem process_inMemory {s : Session} (h : s.KeepsInMemory) (hopen : s.processor.finished = false)
    (round : Round) :
    s.process round =
      if round.isFinal then
        match (s.record round.verdicts).markFinished.conclude with
        | (.ok report, s) => (.ok (some report), s)
        | (.error failure, s) => (.error failure, s)
      else (.ok none, s.record round.verdicts) := by
  rw [process, hopen, carryOut_eq_record h]
  rfl

theorem process_of_finished {s : Session} (h : s.processor.finished = true) (round : Round) :
    s.process round = (.error (.input .roundAfterEnd), s) := by
  rw [process, if_pos h]

theorem exists_run_eq {s : Session} {rounds : List Round} {result : Except Failure Report}
    (h : (s.run rounds).1 = result) : ∃ s', s.run rounds = (result, s') :=
  ⟨(s.run rounds).2, by rw [← h]⟩

theorem conclude_files_only {s s' : Session} {result : Except Failure Report}
    (h : s.conclude = (result, s')) : s'.processor = s.processor ∧ s'.sink = s.sink := by
  unfold conclude at h
  dsimp only at h
  split at h
  · cases h
    exact ⟨rfl, rfl⟩
  · split at h <;> cases h <;> exact ⟨rfl, rfl⟩

/-- Nothing comes after a final round in a run that ends with a report. -/
theorem runFrom_of_finished {s s' : Session} {last report : Report} {rounds : List Round}
    (h : s.processor.finished = true) (hrun : s.runFrom (some last) rounds = (.ok report, s')) :
    rounds = [] ∧ last = report ∧ s = s' := by
  cases rounds with
  | nil =>
    cases hrun
    exact ⟨rfl, rfl, rfl⟩
  | cons round rest =>
    rw [runFrom, process_of_finished h] at hrun
    cases hrun

/-- A run in memory that ends with a report has carried out all verdicts, and then written the
artifact. -/
theorem run_eq_ok {s s' : Session} {rounds : List Round} {report : Report} (h : s.KeepsInMemory)
    (hopen : s.processor.finished = false) (hrun : s.run rounds = (.ok report, s')) :
    (s.record (rounds.flatMap Round.verdicts)).markFinished.conclude = (.ok report, s') := by
  unfold run at hrun
  -- the verdicts of the rounds up to here are in `s`, and `s` has not taken the final round
  induction rounds generalizing s with
  | nil =>
    simp only [runFrom, finish, process_inMemory h hopen, Round.over, if_true] at hrun
    have hverdicts : Round.verdicts { isFinal := true } = [] := rfl
    rw [hverdicts] at hrun
    cases hc : (s.record []).markFinished.conclude with
    | mk result s₁ =>
      rw [hc] at hrun
      cases result with
      | ok r =>
        cases hrun
        exact hc
      | error failure => cases hrun
  | cons round rest ih =>
    rw [runFrom, process_inMemory h hopen] at hrun
    rw [List.flatMap_cons, record_append]
    cases hfinal : round.isFinal with
    | false =>
      rw [hfinal] at hrun
      exact ih h hopen hrun
    | true =>
      rw [hfinal, if_pos rfl] at hrun
      cases hc : (s.record round.verdicts).markFinished.conclude with
      | mk result s₁ =>
        rw [hc] at hrun
        cases result with
        | error failure => cases hrun
        | ok r =>
          have hfinished : s₁.processor.finished = true := by
            rw [(conclude_files_only hc).1]
            rfl
          obtain ⟨rfl, rfl, rfl⟩ := runFrom_of_finished hfinished hrun
          exact hc

/-- A run that ends with a report, from its beginning: the lines were collected into one set, and
its artifact was written to the file system that the run began with. -/
theorem run_start_eq_ok {output : Output} {path : Path} {fs : FileSystem} {rounds : List Round}
    {report : Report} {s : Session} (hdest : output.destination = .artifact path)
    (hrun : (start output fs).run rounds = (.ok report, s)) :
    ∃ bytes,
      writeArtifact path (CommandSet.ofTexts (acceptedTexts rounds)).finalize output.charset fs =
        (.ok bytes, s.files) ∧
      report =
        { accepted := (acceptedLines rounds).length
          lines := (CommandSet.ofTexts (acceptedTexts rounds)).finalize.length
          quiet := (CommandSet.ofTexts (acceptedTexts rounds)).quiet
          output := .artifact path bytes } := by
  have hprocessor : Processor.new output = { output := output, collector := .inMemory } := by
    simp only [Processor.new, hdest]
  have hmem : (start output fs).KeepsInMemory := by
    rw [KeepsInMemory, start, hprocessor]
    rfl
  have hopen : (start output fs).processor.finished = false := rfl
  have hconclude := run_eq_ok hmem hopen hrun
  simp only [conclude, markFinished, record, start, hprocessor, hdest, Collector.record,
    Collector.inMemory] at hconclude
  split at hconclude
  · next bytes files hwrite =>
    obtain ⟨hreport, rfl⟩ := Prod.mk.inj hconclude
    refine ⟨bytes, hwrite, ?_⟩
    rw [← Except.ok.inj hreport, Nat.zero_add]
    rfl
  · cases hconclude

end Session

end CompilerHints
