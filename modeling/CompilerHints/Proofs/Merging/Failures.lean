import CompilerHints.Proofs.AllOrNothing
import CompilerHints.Proofs.Merging.SameLines

/-!
# Merges that fail

A merge fails for the first reason that there is, in a fixed order, whatever else is wrong. Up to
the writing it touches nothing, and what it writes is one file, which can be in the directory
itself.

* `FragmentDirectory.mergedLines`: the lines that a merge of a directory writes.
* `mergeIn_of_areTexts`, `exists_directory_of_mergeIn`: how far a merge comes.
* `FragmentDirectory.KeepsFiles`, `FragmentDirectory.keepsFiles_of_writesOnly`: what becomes of the
  files of the directory.
* `FailsInOrder`, `failsInOrder_mergeIn`: what becomes of a merge.
-/

namespace CompilerHints

open Text FragmentDirectory

namespace FragmentDirectory

variable {dir : FragmentDirectory} {output : Path} {bytes : Bytes} {fs fs' : FileSystem}

/-- The lines that a merge of the directory writes. -/
def mergedLines (dir : FragmentDirectory) (fs : FileSystem) : List String :=
  (CommandSet.ofTexts (linesAmong (dir.readable fs))).finalize

/-- The files directly inside the directory are what they were, unless a path for writing leads to
one of them. -/
def KeepsFiles (dir : FragmentDirectory) (output : Path) (fs fs' : FileSystem) : Prop :=
  ∀ file ∈ dir.files fs, file ∈ dir.files fs' ∨
    ∃ loc, fs'.locate? dir.path = some loc ∧ fs'.locate? output = some (loc ++ [file.1])

theorem keepsFiles_of_writesOnly (h : FileSystem.WritesOnly output bytes fs fs') :
    dir.KeepsFiles output fs fs' := by
  rintro ⟨name, content⟩ hfile
  obtain ⟨home, hhome, hdir, hentry⟩ := mem_files_iff.1 hfile
  obtain ⟨loc, hlocate, -, -, hothers⟩ := h.file
  have hhome' := h.grows.locate? hhome
  by_cases hsame : home ++ [name] = loc
  · exact .inr ⟨home, hhome', hsame ▸ hlocate⟩
  · refine .inl (mem_files_iff.2 ⟨home, hhome', h.grows.directory _ hdir, ?_⟩)
    rcases hothers _ hsame with hkept | ⟨hbefore, -⟩
    · exact hkept.trans hentry
    · rw [hbefore] at hentry
      cases hentry

end FragmentDirectory

variable {order : Enumeration} {dir? output? : Option Path} {dir output : Path} {charset : Charset}
  {fs : FileSystem}

/-! ### How far a merge comes -/

theorem mergeIn_of_not_isDirectory (h : fs.isDirectory dir = false) :
    mergeIn order (some dir) output? charset fs = (.error (.mergeInputNotDirectory dir), fs) := by
  simp only [mergeIn, h, Bool.not_false, if_true]

theorem mergeIn_none_of_isDirectory (h : fs.isDirectory dir = true) :
    mergeIn order (some dir) none charset fs = (.error .mergeOutputMissing, fs) := by
  simp only [mergeIn, h, Bool.not_true, Bool.false_eq_true, if_false]

/-- A merge stops at a file that is no text. -/
theorem mergeIn_of_not_areTexts (hdir : fs.isDirectory dir = true)
    (htexts : ¬ AreTexts (readable ⟨dir⟩ fs)) :
    ∃ file ∈ readable ⟨dir⟩ fs, ofUtf8Bytes? file.2 = none ∧
      mergeIn order (some dir) (some output) charset fs =
        (.error (.io (dir.join ⟨file.1⟩)), fs) := by
  obtain ⟨file, hfile, hbytes, hcollect⟩ := collectIn_eq_error hdir htexts order
  refine ⟨file, hfile, hbytes, ?_⟩
  simp only [mergeIn, hdir, Bool.not_true, Bool.false_eq_true, if_false, hcollect]

/-- If all files that are read are texts, a merge fails where its lines cannot be written, and
leaves what writing them leaves. -/
theorem mergeIn_of_areTexts (hdir : fs.isDirectory dir = true)
    (htexts : AreTexts (readable ⟨dir⟩ fs)) :
    let merged := mergeIn order (some dir) (some output) charset fs
    let wrote := writeArtifact output (mergedLines ⟨dir⟩ fs) charset fs
    (∀ failure, merged.1 = .error failure ↔ wrote.1 = .error failure) ∧ merged.2 = wrote.2 := by
  intro merged wrote
  have hmerged : merged = _ := mergeIn_of_collectIn (collectIn_eq_ok hdir htexts order) charset
  rw [hmerged]
  split
  · next failure fs' hwrite =>
    have hwrote : wrote = (.error failure, fs') := hwrite
    rw [hwrote]
    exact ⟨fun _ => by simp, rfl⟩
  · next n fs' hwrite =>
    have hwrote : wrote = (.ok n, fs') := hwrite
    rw [hwrote]
    exact ⟨fun _ => by simp, rfl⟩

/-- A merge that succeeds was given a directory and an output, and all files that it read are
texts. -/
theorem exists_directory_of_mergeIn {report : MergeReport}
    (h : (mergeIn order dir? output? charset fs).1 = .ok report) :
    ∃ dir ∈ dir?, ∃ output ∈ output?,
      fs.isDirectory dir = true ∧ AreTexts (readable ⟨dir⟩ fs) := by
  cases dir? with
  | none => cases h
  | some dir =>
    cases hdir : fs.isDirectory dir with
    | false =>
      rw [mergeIn_of_not_isDirectory hdir] at h
      cases h
    | true =>
      cases output? with
      | none =>
        rw [mergeIn_none_of_isDirectory hdir] at h
        cases h
      | some output =>
        by_cases htexts : AreTexts (readable ⟨dir⟩ fs)
        · exact ⟨dir, rfl, output, rfl, hdir, htexts⟩
        · obtain ⟨_, -, -, hmerge⟩ := mergeIn_of_not_areTexts hdir htexts
          rw [hmerge] at h
          cases h

/-! ### What becomes of a merge -/

/-- What becomes of a merge: it fails for the first reason that there is and nothing is touched, or
its lines are written, or the file system refuses to write them. -/
structure FailsInOrder (dir? output? : Option Path) (charset : Charset) (fs : FileSystem)
    (result : Except Failure MergeReport × FileSystem) : Prop where
  /-- Without a directory. -/
  inputMissing : dir? = none → result = (.error .mergeInputMissing, fs)
  /-- Else without a directory in its place. -/
  inputNotDirectory : ∀ dir ∈ dir?, fs.isDirectory dir = false →
    result = (.error (.mergeInputNotDirectory dir), fs)
  /-- Else without an output. -/
  outputMissing : ∀ dir ∈ dir?, fs.isDirectory dir = true → output? = none →
    result = (.error .mergeOutputMissing, fs)
  /-- Else with a file that is read and is no text. -/
  notText : ∀ dir ∈ dir?, ∀ output ∈ output?, fs.isDirectory dir = true →
    ¬ AreTexts (readable ⟨dir⟩ fs) →
      ∃ file ∈ readable ⟨dir⟩ fs, ofUtf8Bytes? file.2 = none ∧
        result = (.error (.io (dir.join ⟨file.1⟩)), fs)
  /-- Else with a character that the charset lacks, the first of which is told. -/
  unmappable : ∀ dir ∈ dir?, ∀ output ∈ output?, fs.isDirectory dir = true →
    AreTexts (readable ⟨dir⟩ fs) →
      ∀ c ∈ (renderArtifact (mergedLines ⟨dir⟩ fs)).toList, ¬ charset.Represents c →
        ∃ first, charset.LacksFirst (renderArtifact (mergedLines ⟨dir⟩ fs)).toList first ∧
          result = (.error (.unmappable ⟨charset, first⟩), fs)
  /-- Else only the writing can fail, and then at most missing directories above the output are
  new. -/
  refused : ∀ dir ∈ dir?, ∀ output ∈ output?, fs.isDirectory dir = true →
    AreTexts (readable ⟨dir⟩ fs) →
      (∀ c ∈ (renderArtifact (mergedLines ⟨dir⟩ fs)).toList, charset.Represents c) →
        ∀ failure, result.1 = .error failure →
          ∃ refused, failure = .io refused ∧ FileSystem.MakesAncestors output fs result.2
  /-- A merge that succeeds writes its lines to the output, and besides it at most missing
  directories above it are new. The files of the directory are what they were, unless the output is
  one of them. -/
  written : ∀ report, result.1 = .ok report → ∃ dir ∈ dir?, ∃ output ∈ output?,
    FileSystem.WritesOnly output (charset.lineBytes (mergedLines ⟨dir⟩ fs)) fs result.2 ∧
      KeepsFiles ⟨dir⟩ output fs result.2

/-- A merge fails for the first reason that there is and touches nothing, or it writes one file. -/
theorem failsInOrder_mergeIn (order : Enumeration) (dir? output? : Option Path)
    (charset : Charset) (fs : FileSystem) :
    FailsInOrder dir? output? charset fs (mergeIn order dir? output? charset fs) where
  inputMissing h := by
    rw [h]
    rfl
  inputNotDirectory dir hdir h := by
    rw [Option.mem_def.1 hdir]
    exact mergeIn_of_not_isDirectory h
  outputMissing dir hdir h houtput := by
    rw [Option.mem_def.1 hdir, houtput]
    exact mergeIn_none_of_isDirectory h
  notText dir hdir output houtput h htexts := by
    rw [Option.mem_def.1 hdir, Option.mem_def.1 houtput]
    exact mergeIn_of_not_areTexts h htexts
  unmappable dir hdir output houtput h htexts c hc hlacks := by
    rw [Option.mem_def.1 hdir, Option.mem_def.1 houtput]
    obtain ⟨first, hfirst, hwrite⟩ := exists_unmappable_of_writeArtifact hc hlacks output fs
    obtain ⟨hfails, hfiles⟩ := mergeIn_of_areTexts h htexts
    rw [hwrite] at hfails hfiles
    exact ⟨first, hfirst, Prod.ext ((hfails _).2 rfl) hfiles⟩
  refused dir hdir output houtput h htexts hall failure hfailure := by
    rw [Option.mem_def.1 hdir, Option.mem_def.1 houtput] at hfailure ⊢
    obtain ⟨hfails, hfiles⟩ := mergeIn_of_areTexts h htexts
    rw [hfiles]
    have hwrite := (hfails failure).1 hfailure
    rcases failures_of_writeArtifact hwrite with ⟨c, -, hlacks⟩ | hrefused
    · obtain ⟨pre, post, htext, -, hc⟩ := hlacks
      exact absurd (hall c (htext ▸ List.mem_append_right pre List.mem_cons_self)) hc
    · exact hrefused
  written report hok := by
    obtain ⟨dir, hdir, output, houtput, h, htexts⟩ := exists_directory_of_mergeIn hok
    rw [Option.mem_def.1 hdir, Option.mem_def.1 houtput] at hok ⊢
    obtain ⟨hfails, hfiles⟩ := mergeIn_of_areTexts h htexts
    rw [hfiles]
    cases hwrite : (writeArtifact output (mergedLines ⟨dir⟩ fs) charset fs).1 with
    | error failure =>
      rw [(hfails failure).2 hwrite] at hok
      cases hok
    | ok n =>
      obtain ⟨-, -, honly⟩ := writesOnly_of_writeArtifact hwrite
      exact ⟨dir, rfl, output, rfl, honly, keepsFiles_of_writesOnly honly⟩

/-- A fragment that is no text is told, unless there is no directory or no output. By so long a path
that the fragment is not reached, the merge goes on without it. -/
theorem failsInOrder_of_broken_fragment :
    let name := "inline-a.B3a3am202829V"
    let files := MergeTask.filesOf [(["d"], .directory), (["d", name], .file [0xFF])]
    let task : MergeTask := ⟨⟨⟨"d"⟩⟩, ⟨"o"⟩, files⟩
    let far := task.detour 2040
    mergeIn .asListed none none .utf8 files = (.error .mergeInputMissing, files) ∧
      mergeIn .asListed (some ⟨"o"⟩) none .utf8 files =
        (.error (.mergeInputNotDirectory ⟨"o"⟩), files) ∧
      mergeIn .asListed (some ⟨"d"⟩) none .utf8 files = (.error .mergeOutputMissing, files) ∧
      task.runIn .reversed .utf8 = (.error (.io ⟨"d/inline-a.B3a3am202829V"⟩), files) ∧
      ∃ fs, far.runIn .reversed .utf8 = (.ok ⟨0, 0, false, ⟨"o"⟩⟩, fs) := by
  intro name files task far
  have hd : files.isDirectory ⟨"d"⟩ = true := by decide +kernel
  have hread : task.dir.readable files = [(name, [0xFF])] := by decide +kernel
  have htexts : ¬ AreTexts (task.dir.readable files) := by decide +kernel
  have hpossible : task.IsPossible := by decide +kernel
  have hreach : task.IsOutOfReach 2040 := ⟨by decide, by decide +kernel⟩
  have hempty : far.contents = [] := MergeTask.contents_detour hpossible hreach
  refine ⟨(failsInOrder_mergeIn ..).inputMissing rfl,
    (failsInOrder_mergeIn ..).inputNotDirectory _ rfl (by decide +kernel),
    (failsInOrder_mergeIn ..).outputMissing _ rfl hd rfl, ?_, ?_⟩
  · obtain ⟨file, hfile, -, hrun⟩ := (failsInOrder_mergeIn .reversed (some task.dir.path)
      (some task.output) .utf8 files).notText _ rfl _ rfl hd htexts
    rw [hread, List.mem_singleton] at hfile
    have hpath : task.dir.path.join ⟨name⟩ = ⟨"d/inline-a.B3a3am202829V"⟩ := by decide +kernel
    rw [hfile, hpath] at hrun
    exact hrun
  · have hcommands : far.commands = .ofTexts [] := by
      rw [MergeTask.commands, MergeTask.lines, hempty, List.flatMap_nil]
    have hreport : far.report = ⟨0, 0, false, ⟨"o"⟩⟩ := by
      rw [MergeTask.report, hempty, hcommands]
      rfl
    have hencode : Charset.utf8.encode (renderArtifact far.commands.finalize) = .ok [] := by
      rw [hcommands]
      rfl
    obtain ⟨fs, hrun, -⟩ := MergeTask.runIn_of_encode_eq_ok (hpossible.detour hreach)
      (MergeTask.hasTexts_of_contents_eq_nil hempty) hencode .reversed
    rw [hreport] at hrun
    exact ⟨fs, hrun⟩

end CompilerHints
