import CompilerHints.Proofs.Incremental.Confined
import CompilerHints.Proofs.Incremental.Series

/-!
# Running a build unit again

Which lines a run keeps depends on its rounds only, not on the files. So a run that went well and is
done once more keeps the same series of lines, on top of what this series left.

* `CommandSet.toKeepAll`: the lines that are kept for lines that are accepted one after the other.
* `Session.carryOut_eq_ok_iff`: verdicts are carried out if these lines can be kept.
* `Session.onlyLastIsFinal_of_runFrom`, `Session.run_eq_ok_iff`: runs that end with a report.
* `Session.run_again`: the second run.
-/

namespace CompilerHints

/-- The lines that are kept for lines that are accepted one after the other. -/
def CommandSet.toKeepAll (s : CommandSet) : List Line → List Line
  | [] => []
  | line :: rest => s.toKeep line ++ (s.insertText line.text).2.toKeepAll rest

namespace Session

variable {dir : FragmentDirectory} {s t : Session} {rounds : List Round} {report : Report}

/-- A session that works on other files. -/
def withFiles (s : Session) (files : FileSystem) : Session :=
  { s with files := files }

/-- A line is collected if what is to be kept can be kept. -/
theorem collect_eq_ok_iff (hs : s.KeepsIn dir) {line : Line} :
    (∃ isNew, s.collect line = (.ok isNew, t)) ↔
      ∃ fs, dir.keepAll? s.files (s.processor.collector.commands.toKeep line) = some fs ∧
        t = (s.record [.accepted none line]).withFiles fs := by
  constructor
  · rintro ⟨isNew, h⟩
    rcases haccept : s.processor.collector.accept line s.files with ⟨result, c, fs⟩
    rw [collect, haccept] at h
    cases h
    obtain ⟨rfl, hkeep⟩ := (Collector.accept_eq_ok_iff hs.fragments).1 ⟨isNew, haccept⟩
    exact ⟨fs, hkeep, rfl⟩
  · rintro ⟨fs, hkeep, rfl⟩
    obtain ⟨isNew, haccept⟩ := (Collector.accept_eq_ok_iff hs.fragments).2 ⟨rfl, hkeep⟩
    refine ⟨isNew, ?_⟩
    rw [collect, haccept]
    rfl

/-- Verdicts are carried out if the lines that are to be kept can be kept, and then nothing but
these lines matters for the files. -/
theorem carryOut_eq_ok_iff (hs : s.KeepsIn dir) {verdicts : List Verdict} :
    s.carryOut verdicts = (.ok (), t) ↔
      ∃ fs, dir.keepAll? s.files
          (s.processor.collector.commands.toKeepAll (verdicts.filterMap Verdict.line?)) = some fs ∧
        t = (s.record verdicts).withFiles fs := by
  induction verdicts generalizing s with
  | nil =>
    rw [carryOut, Prod.mk.injEq, and_iff_right rfl, eq_comm]
    constructor
    · intro h
      exact ⟨s.files, rfl, h⟩
    · rintro ⟨_, hfs, h⟩
      cases hfs
      exact h
  | cons v rest ih =>
    cases v with
    | rejected error => exact ih ⟨hs.destination, hs.fragments⟩
    | accepted warning? line =>
      obtain ⟨hprocessor, hfiles⟩ := warned_eq s warning?
      have hs' := hs.warned warning?
      have hlines : (Verdict.accepted warning? line :: rest).filterMap Verdict.line? =
          line :: rest.filterMap Verdict.line? := rfl
      rw [carryOut, record_accepted, hlines, CommandSet.toKeepAll,
        FragmentDirectory.keepAll?_append, ← hfiles, ← hprocessor]
      rcases hcollect : (warning?.elim s s.emit).collect line with ⟨_ | isNew, u⟩
      · -- the line cannot be kept, so no series that begins with it can
        refine iff_of_false (fun e => by cases e) ?_
        rintro ⟨fs, hkeep, -⟩
        obtain ⟨mid, hmid, -⟩ := Option.bind_eq_some_iff.1 hkeep
        obtain ⟨isNew, hok⟩ := (collect_eq_ok_iff hs').2 ⟨mid, hmid, rfl⟩
        rw [hcollect] at hok
        cases hok
      · obtain ⟨mid, hmid, rfl⟩ := (collect_eq_ok_iff hs').1 ⟨isNew, hcollect⟩
        rw [hmid]
        exact ih ⟨hs'.destination, hs'.fragments⟩

/-! ### Runs -/

/-- In a run that ends with a report, no round but the last one is final. -/
theorem onlyLastIsFinal_of_runFrom {last : Option Report}
    (h : s.runFrom last rounds = (.ok report, t)) : OnlyLastIsFinal rounds := by
  induction rounds generalizing s last with
  | nil => exact fun _ hmem => absurd hmem List.not_mem_nil
  | cons round rest ih =>
    rw [runFrom] at h
    cases hprocess : s.process round with
    | mk result u =>
      rw [hprocess] at h
      cases Takes.of_process_eq hprocess with
      | refused _ => cases h
      | aborted _ _ => cases h
      | unwritten _ _ _ _ => cases h
      | continued _ _ hfinal =>
        intro r hr
        cases rest with
        | nil => cases hr
        | cons next rest =>
          rcases List.mem_cons.1 hr with rfl | hr
          · exact hfinal
          · exact ih h r hr
      | reported hopen hcarry hfinal hconclude =>
        have hclosed := (Takes.reported hopen hcarry hfinal hconclude).of_report.2
        obtain ⟨rfl, -, -⟩ := runFrom_of_finished hclosed h
        exact fun _ hmem => absurd hmem List.not_mem_nil

/-- A run into a fragment directory ends with a report if the lines that are to be kept can be
kept. The report is about these lines, whatever the files are. -/
theorem run_eq_ok_iff (hs : s.KeepsIn dir) (hopen : s.processor.finished = false) :
    s.run rounds = (.ok report, t) ↔
      OnlyLastIsFinal rounds ∧
        dir.keepAll? s.files (s.processor.collector.commands.toKeepAll
          ((rounds.flatMap Round.verdicts).filterMap Verdict.line?)) = some t.files ∧
        ((s.record (rounds.flatMap Round.verdicts)).withFiles t.files).markFinished.conclude =
          (.ok report, t) := by
  -- nothing is written in the end, so the files are those that the lines left
  have hconclude (fs : FileSystem)
      (h : ((s.record (rounds.flatMap Round.verdicts)).withFiles fs).markFinished.conclude =
        (.ok report, t)) : fs = t.files := by
    have hkeeps :
        ((s.record (rounds.flatMap Round.verdicts)).withFiles fs).markFinished.KeepsIn dir :=
      ⟨hs.destination, hs.fragments⟩
    obtain ⟨_, hsame, -⟩ := conclude_of_keepsIn hkeeps
    rw [hsame] at h
    cases h
    rfl
  constructor
  · intro h
    have hrounds := onlyLastIsFinal_of_runFrom h
    rw [run_eq_carryOut hopen hrounds] at h
    split at h
    · next u hcarry =>
      obtain ⟨fs, hkeep, rfl⟩ := (carryOut_eq_ok_iff hs).1 hcarry
      obtain rfl := hconclude fs h
      exact ⟨hrounds, hkeep, h⟩
    · cases h
  · rintro ⟨hrounds, hkeep, h⟩
    rw [run_eq_carryOut hopen hrounds, (carryOut_eq_ok_iff hs).2 ⟨t.files, hkeep, rfl⟩]
    exact h

/-- When a run has ended with a report, the same rounds are run once more on the files that it left:
the second run ends with the same report and the same diagnostics, and every file and directory
stays as it is. -/
theorem run_again {dir : Path} {charset : Charset} {fs : FileSystem}
    (h : (start ⟨.fragments dir, charset⟩ fs).run rounds = (.ok report, s)) :
    (start ⟨.fragments dir, charset⟩ s.files).run rounds = (.ok report, s) := by
  obtain ⟨hrounds, hkeep, hconclude⟩ := (run_eq_ok_iff (keepsIn_start ⟨dir⟩ charset fs) rfl).1 h
  exact (run_eq_ok_iff (keepsIn_start ⟨dir⟩ charset s.files) rfl).2
    ⟨hrounds, FragmentDirectory.keepAll?_again hkeep, hconclude⟩

/-- Two options whose lines have one name, and a `quiet` of one scope twice: the second run goes
through states of the directory that are not the one it ends in. -/
theorem run_again_of_shared_name :
    let method : Element := .method { owner := "a.B", name := "m" }
    let rounds : List Round :=
      [{ elements := [⟨method, [.options ["a b", "a20b"]]⟩] },
        { elements := [⟨.package "p", [.single .quiet, .single .quiet]⟩] }]
    let report : Report := ⟨4, 3, true, .fragments ⟨"f"⟩⟩
    let start := start ⟨.fragments ⟨"f"⟩, .utf8⟩
    nameCodes "a b" = nameCodes "a20b" ∧
      ∃ s, (start (.inDirectory [])).run rounds = (.ok report, s) ∧
        (start s.files).run rounds = (.ok report, s) := by
  intro method rounds report start
  have hresult : ((start (.inDirectory [])).run rounds).1 = .ok report := by decide +kernel
  obtain ⟨s, hrun⟩ := exists_run_eq hresult
  exact ⟨by decide +kernel, s, hrun, run_again hrun⟩

end Session

end CompilerHints
