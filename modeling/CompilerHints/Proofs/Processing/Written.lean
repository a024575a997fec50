import CompilerHints.Proofs.Incremental.Attempts
import CompilerHints.Proofs.Incremental.Rebuild
import CompilerHints.Proofs.Incremental.Rerun
import CompilerHints.Proofs.Processing.Accounts
import CompilerHints.Proofs.Processing.FirstFinal
import Mathlib.Data.List.Induction

/-!
# What a run with a report leaves behind

A run that ends with a report has put all of its lines where they belong: into the artifact, or into
fragments, which lines of one name share. It has errors if an occurrence was refused.

* `CommandSet.exists_mem_toKeepAll`: every accepted line has its name among the lines that are kept.
* `FragmentDirectory.exists_holds_of_keepAll?`, `FragmentDirectory.changesOnly_of_keepAll?`: what a
  series of lines leaves in a directory.
* `Output.IsWritten`, `Session.isWritten_of_run`: the lines are in the files of the output.
* `Session.sink_of_run`, `Session.hasErrors_iff_of_run`: the diagnostics of the run.
-/

namespace CompilerHints

/-! ### Lines that are kept -/

namespace CommandSet

/-- The lines that are kept for one unit. -/
theorem toKeepAll_eq_units (s : CommandSet) (lines : List Line) :
    s.toKeepAll lines = Units.toKeepAll (fun _ : Unit => s) (lines.map (Prod.mk ())) := by
  induction lines generalizing s with
  | nil => rfl
  | cons line rest ih =>
    have hsets : Function.update (fun _ : Unit => s) () (s.insertText line.text).2 =
        fun _ => (s.insertText line.text).2 := by
      funext i
      rw [Function.update_apply, if_pos rfl]
    rw [toKeepAll, ih, List.map_cons, Units.toKeepAll, hsets]

/-- Every line that is accepted is kept, or one of its name is, unless it was known before. -/
theorem exists_mem_toKeepAll {lines : List Line} {line : Line} (s : CommandSet)
    (hline : line ∈ lines) :
    (line.isQuiet = false ∧ line.text ∈ s.lines) ∨
      ∃ kept ∈ s.toKeepAll lines, kept.fragmentName = line.fragmentName := by
  have hcall : ((), line) ∈ lines.map (Prod.mk ()) := List.mem_map_of_mem hline
  rw [toKeepAll_eq_units]
  exact Units.exists_mem_toKeepAll (fun _ => s) hcall

/-- Only accepted lines are kept. -/
theorem mem_of_mem_toKeepAll {lines : List Line} {kept : Line} {s : CommandSet}
    (h : kept ∈ s.toKeepAll lines) : kept ∈ lines := by
  rw [toKeepAll_eq_units] at h
  have hkept := Units.mem_of_mem_toKeepAll h
  rwa [List.map_map, Function.comp_def, List.map_id'] at hkept

end CommandSet

/-- After a series of lines the fragment of each holds a line of the series with its name. -/
theorem FragmentDirectory.exists_holds_of_keepAll? {dir : FragmentDirectory} {fs fs' : FileSystem}
    {lines : List Line} {line : Line} (h : dir.keepAll? fs lines = some fs')
    (hline : line ∈ lines) :
    ∃ kept ∈ lines, kept.fragmentName = line.fragmentName ∧ dir.Holds fs' kept := by
  induction lines using List.reverseRecOn generalizing fs' with
  | nil => cases hline
  | append_singleton lines last ih =>
    rw [keepAll?_append] at h
    obtain ⟨mid, hlines, hlast⟩ := Option.bind_eq_some_iff.1 h
    obtain ⟨p, hwrite⟩ := keepAll?_singleton_eq_some_iff.1 hlast
    by_cases hname : line.fragmentName = last.fragmentName
    · exact ⟨last, List.mem_concat_self, hname.symm, holds_of_write hwrite⟩
    · have hbefore : line ∈ lines := by
        rcases List.mem_append.1 hline with hline | hline
        · exact hline
        · exact absurd (by rw [List.mem_singleton.1 hline]) hname
      obtain ⟨kept, hkept, hsame, hholds⟩ := ih hlines hbefore
      exact ⟨kept, List.mem_append_left _ hkept, hsame,
        hholds.of_write hwrite (hsame ▸ hname)⟩

/-- Keeping a series of lines changes nothing but their fragments. -/
theorem FragmentDirectory.changesOnly_of_keepAll? {dir : FragmentDirectory} {fs fs' : FileSystem}
    {lines : List Line} (h : dir.keepAll? fs lines = some fs') :
    dir.ChangesOnly lines fs fs' := by
  rw [← tryAll_of_keepAll? h]
  exact dir.changesOnly_tryAll fs lines

/-! ### Files and diagnostics -/

/-- The lines of rounds are in the files that an output asks for, and nothing else changed. An
artifact has all of the lines; in a directory each of them has its fragment, which lines of one name
share. -/
def Output.IsWritten (output : Output) (rounds : List Round) (fs fs' : FileSystem) : Prop :=
  match output.destination with
  | .artifact path =>
    FileSystem.WritesOnly path (output.charset.lineBytes (artifactLines rounds)) fs fs'
  | .fragments dir =>
    (∀ line ∈ acceptedLines rounds, ∃ kept ∈ acceptedLines rounds,
        kept.fragmentName = line.fragmentName ∧ FragmentDirectory.Holds ⟨dir⟩ fs' kept) ∧
      FragmentDirectory.ChangesOnly ⟨dir⟩ (acceptedLines rounds) fs fs'

namespace Session

variable {output : Output} {fs : FileSystem} {rounds : List Round} {report : Report} {s : Session}

/-- A run with a report has written its output. -/
theorem isWritten_of_run (h : (start output fs).run rounds = (.ok report, s)) :
    output.IsWritten rounds fs s.files := by
  obtain ⟨destination, charset⟩ := output
  cases destination with
  | artifact path =>
    obtain ⟨n, hwrite, -⟩ := run_start_eq_ok rfl h
    have hresult := congrArg Prod.fst hwrite
    have hfiles := congrArg Prod.snd hwrite
    have hwrites := (writesOnly_of_writeArtifact hresult).2.2
    rwa [hfiles] at hwrites
  | fragments dir =>
    obtain ⟨-, hkeep, -⟩ := (run_eq_ok_iff (keepsIn_start ⟨dir⟩ charset fs) rfl).1 h
    refine ⟨fun line hline => ?_, (FragmentDirectory.changesOnly_of_keepAll? hkeep).mono
      fun kept hkept => CommandSet.mem_of_mem_toKeepAll hkept⟩
    rcases CommandSet.empty.exists_mem_toKeepAll hline with ⟨-, hknown⟩ | ⟨kept, hkept, hname⟩
    · simp [CommandSet.empty] at hknown
    · obtain ⟨other, hother, hsame, hholds⟩ :=
        FragmentDirectory.exists_holds_of_keepAll? hkeep hkept
      exact ⟨other, CommandSet.mem_of_mem_toKeepAll hother, hsame.trans hname, hholds⟩

/-- The diagnostics of a run with a report are the reports of its occurrences. -/
theorem sink_of_run (h : (start output fs).run rounds = (.ok report, s)) :
    s.sink = Sink.empty.emitAll ((rounds.flatMap Round.turns).filterMap Turn.report?) := by
  obtain ⟨calls, hcompletes, hturns⟩ := exists_completes_of_runFrom h
  rw [← hturns, ← filterMap_flatMap_verdicts Round.map_diagnostic?_verdicts,
    hcompletes.records.1.sink]
  rfl

/-- A run with a report has errors if an occurrence was misplaced or has no fitting value. -/
theorem hasErrors_iff_of_run (h : (start output fs).run rounds = (.ok report, s)) :
    s.sink.hasErrors = true ↔
      ∃ t ∈ rounds.flatMap Round.turns, t.fate = .misplaced ∨ t.fate = .unfitting := by
  have herrors : s.sink.errors = (rounds.flatMap Round.turns).countP fun t =>
      t.fate.code?.map Prod.fst = some .error := by
    rw [sink_of_run h, Sink.errors_emitAll, Turn.countP_severity]
    exact Nat.zero_add _
  rw [Sink.hasErrors, decide_eq_true_iff, herrors, List.countP_pos_iff]
  refine exists_congr fun t => and_congr_right fun _ => ?_
  cases t.fate <;> decide

end Session

end CompilerHints
