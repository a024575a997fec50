import CompilerHints.Proofs.Processing.LifeCycle
import CompilerHints.Proofs.Processing.Turns
import CompilerHints.Proofs.Sink
import Mathlib.Data.List.Perm.Subperm

/-!
# Accounts of a run

A run that ends with a report leaves nothing out: each occurrence of a directive was accepted or
reported as an error, and what was accepted is a line of the output or was accepted before. The
calls of a run go well one after the other; the files may change in between, the diagnostics stay.

* `Session.Completes`: calls that go well, the last of which gives a report.
* `Session.Completes.records`: all verdicts were recorded, whichever way the lines are kept.
* `lines_add_warnings_le`: no more lines than occurrences that were accepted for the first time.
* `Accounts`, `Session.Completes.accounts`: report and diagnostics, in terms of the occurrences.
-/

namespace CompilerHints

/-! ### Runs with a report -/

/-- The numbers of a report are those of a collector. -/
structure Report.Tells (report : Report) (c : Collector) : Prop where
  accepted : report.accepted = c.accepted
  lines : report.lines = c.commands.finalize.length
  quiet : report.quiet = c.commands.quiet

namespace Session

variable {s t u : Session} {calls : List Call} {report : Report}

/-- Calls that go well, the last of which gives a report. The files may change between calls. -/
inductive Completes : Session → List Call → Report → Session → Prop
  | reported {s t : Session} {c : Call} {report : Report} (h : s.call c = (.ok (some report), t)) :
    Completes s [c] report t
  | continued {s t u : Session} {c : Call} {calls : List Call} {report : Report}
    (files : FileSystem) (h : s.call c = (.ok none, t))
    (hrest : Completes { t with files := files } calls report u) :
    Completes s (c :: calls) report u

theorem tells_of_conclude (h : s.conclude = (.ok report, t)) :
    report.Tells s.processor.collector := by
  unfold conclude at h
  dsimp only at h
  split at h
  · cases h
    exact ⟨rfl, rfl, rfl⟩
  · split at h <;> cases h
    exact ⟨rfl, rfl, rfl⟩

theorem Recorded.append {a b : List Verdict} (h : s.Recorded a t) (h' : t.Recorded b u) :
    s.Recorded (a ++ b) u where
  output := h'.output.trans h.output
  collector := by
    rw [h'.collector, h.collector]
    simp only [Collector.record, List.filterMap_append, List.map_append,
      CommandSet.insertTexts_append, List.length_append, Nat.add_assoc]
  sink := by
    rw [h'.sink, record_append]
    simp only [record, h.sink]

/-- A call that goes well records all verdicts of its round. -/
theorem Takes.recorded_of_ok {round : Round} {report? : Option Report}
    (h : s.Takes round (.ok report?) t) : s.Recorded round.verdicts t := by
  cases h with
  | continued hopen hcarry hfinal =>
    have hrecorded := (Takes.continued hopen hcarry hfinal).recorded hopen
    rwa [carried_of_ok hcarry] at hrecorded
  | reported hopen hcarry hfinal hconclude =>
    have hrecorded := (Takes.reported hopen hcarry hfinal hconclude).recorded hopen
    rwa [carried_of_ok hcarry] at hrecorded

/-- The report tells what the collector has recorded in the end. -/
theorem Takes.tells {round : Round} (h : s.Takes round (.ok (some report)) t) :
    report.Tells t.processor.collector := by
  cases h with
  | reported _ _ _ hconclude =>
    rw [(conclude_files_only hconclude).1]
    exact tells_of_conclude hconclude

/-- A run with a report has recorded all verdicts of its rounds, and the report tells of them. -/
theorem Completes.records (h : s.Completes calls report t) :
    s.Recorded (calls.flatMap fun c => c.round.verdicts) t ∧
      report.Tells t.processor.collector := by
  induction h with
  | @reported s t c report h =>
    have htakes := s.takes_call c
    rw [h] at htakes
    rw [List.flatMap_singleton]
    exact ⟨htakes.recorded_of_ok, htakes.tells⟩
  | @continued s t u c calls report files h _ ih =>
    have htakes := s.takes_call c
    rw [h] at htakes
    have hcall : s.Recorded c.round.verdicts { t with files := files } :=
      ⟨htakes.recorded_of_ok.output, htakes.recorded_of_ok.collector, htakes.recorded_of_ok.sink⟩
    rw [List.flatMap_cons]
    exact ⟨hcall.append ih.1, ih.2⟩

/-- A list of rounds that is run to a report is such a run, with the same occurrences. -/
theorem exists_completes_of_runFrom {rounds : List Round}
    (h : s.runFrom none rounds = (.ok report, t)) :
    ∃ calls, s.Completes calls report t ∧
      (calls.flatMap fun c => c.round.turns) = rounds.flatMap Round.turns := by
  induction rounds generalizing s with
  | nil =>
    have hcall : s.call .finish = (.ok (some report), t) := by
      rw [runFrom] at h
      rw [call, h]
      rfl
    exact ⟨[.finish], .reported hcall, rfl⟩
  | cons round rest ih =>
    rw [runFrom] at h
    cases hprocess : s.process round with
    | mk result u =>
      rw [hprocess] at h
      have hcall : s.call (.process round) = (result, u) := hprocess
      cases result with
      | error failure => cases h
      | ok report? =>
        cases report? with
        | none =>
          obtain ⟨calls, hcompletes, hturns⟩ := ih h
          refine ⟨.process round :: calls, .continued u.files hcall hcompletes, ?_⟩
          rw [List.flatMap_cons, List.flatMap_cons, hturns]
          rfl
        | some found =>
          have hclosed := (Takes.of_process_eq hprocess).of_report.2
          obtain ⟨rfl, rfl, rfl⟩ := runFrom_of_finished hclosed h
          exact ⟨[.process round], .reported hcall, rfl⟩

end Session

/-! ### Counting turns -/

namespace Turn

/-- The text of the line that an occurrence becomes, if it is accepted. -/
def text? (t : Turn) : Option String :=
  t.line?.map Line.text

theorem isSome_text? (t : Turn) : t.text?.isSome = t.isAccepted := by
  rw [text?, Option.isSome_map, Occurrence.isSome_line?]

theorem directive_of_line?_eq_some {t : Turn} {line : Line} (h : t.line? = some line) :
    line.directive = t.directive := by
  obtain ⟨-, h⟩ := Option.ite_none_right_eq_some.1 h
  obtain ⟨-, ⟨d, -, rfl⟩ | ⟨-, hquiet, rfl⟩⟩ := Line.ofElement?_eq_some_iff.1 h
  · rfl
  · exact hquiet.symm

/-- An occurrence becomes the text `quiet` exactly if it is an accepted `quiet`. -/
theorem text?_eq_quietText_iff {t : Turn} :
    t.text? = some quietText ↔ t.isAccepted = true ∧ t.directive = .quiet := by
  rw [text?, ← t.isSome_line?]
  cases hline : t.line? with
  | none => simp
  | some line =>
    simp [Line.text_eq_quietText_iff, Line.isQuiet_iff, directive_of_line?_eq_some hline]

/-- Equal occurrences become equal lines. -/
theorem text?_congr {t u : Turn} (h : t.toOccurrence = u.toOccurrence) : t.text? = u.text? := by
  rw [text?, text?, h]

/-- What is reported has the severity of the fate. -/
theorem map_severity_report? (t : Turn) :
    t.report?.map Diagnostic.severity = t.fate.code?.map Prod.fst := by
  cases h : t.report? with
  | none =>
    rw [report?_eq_none_iff.1 h]
    rfl
  | some d =>
    rw [(report?_eq_some h).1]
    rfl

/-- As many diagnostics of a severity are reported as there are turns with such a fate. -/
theorem countP_severity (turns : List Turn) (severity : Severity) :
    (turns.filterMap report?).countP (fun d => d.severity = severity) =
      turns.countP fun t => t.fate.code?.map Prod.fst = some severity := by
  rw [List.countP_filterMap]
  refine List.countP_congr fun t _ => ?_
  rw [← map_severity_report?]
  cases t.report? <;> simp

/-- The occurrences that are accepted are accepted for the first time or repeated. -/
theorem countP_isAccepted (turns : List Turn) :
    (turns.countP fun t => t.fate.isAccepted) =
      (turns.countP fun t => t.fate = .fresh) + turns.countP fun t => t.fate = .repeated := by
  induction turns with
  | nil => rfl
  | cons t turns ih =>
    rw [List.countP_cons, List.countP_cons, List.countP_cons, ih]
    cases t.fate <;> simp [Fate.isAccepted] <;> omega

end Turn

/-- What is accepted in a round was accepted there for a first time. -/
theorem Round.exists_fresh {r : Round} {t : Turn} (ht : t ∈ r.turns)
    (haccepted : t.isAccepted = true) :
    ∃ u ∈ r.turns, u.fate = .fresh ∧ u.toOccurrence = t.toOccurrence := by
  obtain ⟨a, ha, ht⟩ := List.mem_flatMap.1 ht
  obtain ⟨u, hu, hfresh, hsame⟩ := a.exists_fresh ht haccepted
  exact ⟨u, List.mem_flatMap.2 ⟨a, ha, hu⟩, hfresh, hsame⟩

/-- There are no more lines than occurrences that are accepted for the first time: these have all
the texts there are. -/
theorem length_finalize_le {turns : List Turn}
    (h : ∀ t ∈ turns, t.isAccepted = true →
      ∃ u ∈ turns, u.fate = .fresh ∧ u.toOccurrence = t.toOccurrence) :
    (CommandSet.ofTexts (turns.filterMap Turn.text?)).finalize.length ≤
      turns.countP fun t => t.fate = .fresh := by
  have hsubset : (CommandSet.ofTexts (turns.filterMap Turn.text?)).finalize ⊆
      (turns.filter fun t => t.fate = .fresh).filterMap Turn.text? := by
    intro text htext
    rw [CommandSet.mem_finalize_ofTexts, List.mem_filterMap] at htext
    obtain ⟨t, ht, htext⟩ := htext
    have haccepted : t.isAccepted = true := by rw [← t.isSome_text?, htext, Option.isSome_some]
    obtain ⟨u, hu, hfresh, hsame⟩ := h t ht haccepted
    exact List.mem_filterMap.2
      ⟨u, List.mem_filter.2 ⟨hu, by simpa using hfresh⟩, by rw [Turn.text?_congr hsame, htext]⟩
  have hlines := (List.subperm_of_subset (CommandSet.nodup_finalize_ofTexts _) hsubset).length_le
  calc (CommandSet.ofTexts (turns.filterMap Turn.text?)).finalize.length
      ≤ ((turns.filter fun t => t.fate = .fresh).filterMap Turn.text?).length := hlines
    _ ≤ (turns.filter fun t => t.fate = .fresh).length := List.length_filterMap_le _ _
    _ = turns.countP fun t => t.fate = .fresh := List.countP_eq_length_filter.symm

/-! ### Accounts -/

/-- What a report and the diagnostics say about the occurrences of a run. -/
structure Accounts (turns : List Turn) (report : Report) (sink : Sink) : Prop where
  /-- The diagnostics are the reports of the occurrences, in order. -/
  diagnostics : sink.diagnostics = turns.filterMap Turn.report?
  /-- A report has the severity and the code of the fate, and is located at the element. -/
  located : ∀ t ∈ turns, ∀ d ∈ t.report?,
    t.fate.code? = some (d.severity, d.code) ∧ d.location = some t.element.scope
  accepted : report.accepted = turns.countP fun t => t.fate.isAccepted
  errors : sink.errors = turns.countP fun t => !t.fate.isAccepted
  warnings : sink.warnings = turns.countP fun t => t.fate = .repeated
  /-- Each occurrence was accepted or reported with an error. -/
  length : turns.length = report.accepted + sink.errors
  /-- Each warning is about an occurrence that adds no line. -/
  lines_add_warnings_le : report.lines + sink.warnings ≤ report.accepted
  lines_eq_zero_iff : report.lines = 0 ↔ report.accepted = 0
  quiet_iff : report.quiet = true ↔
    ∃ t ∈ turns, t.fate.isAccepted = true ∧ t.directive = .quiet

/-- A report of a collector that took the texts of turns, and a sink to which their reports were
added, account for the turns. -/
theorem Accounts.of_tells {turns : List Turn} {report : Report} {c : Collector}
    (hreport : report.Tells c)
    (hcommands : c.commands = CommandSet.ofTexts (turns.filterMap Turn.text?))
    (haccepted : c.accepted = (turns.filterMap Turn.text?).length)
    (hfresh : ∀ t ∈ turns, t.isAccepted = true →
      ∃ u ∈ turns, u.fate = .fresh ∧ u.toOccurrence = t.toOccurrence) :
    Accounts turns report (Sink.empty.emitAll (turns.filterMap Turn.report?)) := by
  have hcount : report.accepted = turns.countP fun t => t.fate.isAccepted := by
    rw [hreport.accepted, haccepted, List.length_filterMap_eq_countP]
    simp only [Turn.isSome_text?, Turn.isAccepted_fate]
  have herrors : (Sink.empty.emitAll (turns.filterMap Turn.report?)).errors =
      turns.countP fun t => !t.fate.isAccepted := by
    rw [Sink.errors_emitAll, Turn.countP_severity]
    refine (Nat.zero_add _).trans (List.countP_congr fun t _ => ?_)
    cases t.fate <;> decide
  have hwarnings : (Sink.empty.emitAll (turns.filterMap Turn.report?)).warnings =
      turns.countP fun t => t.fate = .repeated := by
    rw [Sink.warnings_emitAll, Turn.countP_severity]
    refine (Nat.zero_add _).trans (List.countP_congr fun t _ => ?_)
    cases t.fate <;> decide
  have hlines := length_finalize_le hfresh
  rw [← hcommands, ← hreport.lines] at hlines
  refine ⟨?_, fun t _ d hd => Turn.report?_eq_some hd, hcount, herrors, hwarnings, ?_, ?_, ?_, ?_⟩
  · rw [Sink.diagnostics_emitAll]
    rfl
  · rw [hcount, herrors, List.length_eq_countP_add_countP fun t : Turn => t.fate.isAccepted]
    simp
  · rw [hcount, hwarnings, Turn.countP_isAccepted]
    omega
  · rw [hreport.lines, hreport.accepted, haccepted, hcommands, List.length_eq_zero_iff,
      List.length_eq_zero_iff, CommandSet.finalize_ofTexts_eq_nil_iff]
  · rw [hreport.quiet, hcommands, CommandSet.quiet_ofTexts, List.mem_filterMap]
    simp only [Turn.text?_eq_quietText_iff, Turn.isAccepted_fate]

/-- What all verdicts of a round have to say is said by its turns. -/
theorem filterMap_flatMap_verdicts {β : Type} {f : Verdict → Option β} {g : Turn → Option β}
    (h : ∀ r : Round, r.verdicts.map f = r.turns.map g) (calls : List Call) :
    (calls.flatMap fun c => c.round.verdicts).filterMap f =
      (calls.flatMap fun c => c.round.turns).filterMap g := by
  rw [List.filterMap_flatMap, List.filterMap_flatMap]
  refine List.flatMap_congr fun c _ => ?_
  have hid := congrArg (List.filterMap id) (h c.round)
  rwa [List.filterMap_map, List.filterMap_map] at hid

theorem Round.map_text?_verdicts (r : Round) :
    r.verdicts.map (fun v => v.line?.map Line.text) = r.turns.map Turn.text? := by
  have h := congrArg (List.map (Option.map Line.text)) r.map_line?_verdicts
  rw [← r.map_toOccurrence_turns, List.map_map, List.map_map, List.map_map] at h
  exact h

/-- A run with a report accounts for the occurrences in all of its rounds. -/
theorem Session.Completes.accounts {output : Output} {fs : FileSystem} {calls : List Call}
    {report : Report} {t : Session} (h : (start output fs).Completes calls report t) :
    Accounts (calls.flatMap fun c => c.round.turns) report t.sink := by
  obtain ⟨hrecorded, htells⟩ := h.records
  have htexts := filterMap_flatMap_verdicts Round.map_text?_verdicts calls
  have hreports := filterMap_flatMap_verdicts Round.map_diagnostic?_verdicts calls
  have hfresh : (Processor.new output).collector.commands = .empty ∧
      (Processor.new output).collector.accepted = 0 := by
    unfold Processor.new
    cases output.destination <;> exact ⟨rfl, rfl⟩
  have hsink : t.sink = Sink.empty.emitAll
      ((calls.flatMap fun c => c.round.turns).filterMap Turn.report?) := by
    rw [hrecorded.sink, ← hreports]
    rfl
  have hlines : ((calls.flatMap fun c => c.round.verdicts).filterMap Verdict.line?).map Line.text =
      (calls.flatMap fun c => c.round.turns).filterMap Turn.text? := by
    rw [← htexts, List.map_filterMap]
  rw [hsink]
  refine Accounts.of_tells htells ?_ ?_ fun u hu haccepted => ?_
  · rw [hrecorded.collector, ← hlines]
    exact congrArg (CommandSet.insertTexts · _) hfresh.1
  · rw [hrecorded.collector, ← hlines, List.length_map]
    exact (congrArg (· + _) hfresh.2).trans (Nat.zero_add _)
  · obtain ⟨c, hc, hu⟩ := List.mem_flatMap.1 hu
    obtain ⟨v, hv, hfirst, hsame⟩ := c.round.exists_fresh hu haccepted
    exact ⟨v, List.mem_flatMap.2 ⟨c, hc, hv⟩, hfirst, hsame⟩

/-- A directive is repeated, and an option has no value, once on a method and once on a field, where
it is misplaced all the same. -/
theorem Session.Completes.accounts_of_two_rounds :
    let rounds : List Round :=
      [{ elements := [⟨.method ⟨"a.B", "m", [], none⟩,
          [.single .inline, .options ["", "x"], .single .inline]⟩] },
        { elements := [⟨.field "a.B" "f", [.options [""]]⟩] }]
    let fresh := start ⟨.artifact ⟨"o"⟩, .utf8⟩ (.inDirectory [])
    ∃ calls report t, fresh.Completes calls report t ∧
      Accounts (rounds.flatMap Round.turns) report t.sink ∧
      (rounds.flatMap Round.turns).map Turn.fate =
        [.fresh, .unfitting, .fresh, .repeated, .misplaced] ∧
      report.accepted = 3 ∧ report.lines = 2 ∧ t.sink.errors = 2 ∧ t.sink.warnings = 1 := by
  intro rounds fresh
  have hresult : (fresh.run rounds).1 = .ok ⟨3, 2, false, .artifact ⟨"o"⟩ 38⟩ := by decide +kernel
  obtain ⟨t, hrun⟩ := exists_run_eq hresult
  obtain ⟨calls, hcompletes, hturns⟩ := exists_completes_of_runFrom hrun
  have haccounts := hcompletes.accounts
  rw [hturns] at haccounts
  refine ⟨calls, _, t, hcompletes, haccounts, by decide, rfl, rfl, ?_, ?_⟩
  · rw [haccounts.errors]
    decide
  · rw [haccounts.warnings]
    decide

end CompilerHints
