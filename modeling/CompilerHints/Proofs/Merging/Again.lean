import CompilerHints.Proofs.Additions
import CompilerHints.Proofs.Merging.SameLines

/-!
# Merging artifacts again

An artifact is read as a fragment is, and its lines are found in it again. So fragments may be
merged in parts and the artifacts of the parts merged in their turn, and an artifact may be written
into the very directory that is merged.

* `FragmentDirectory.linesOf_renderArtifact`: the lines of an artifact that is read.
* `MergeTask.IsPlain`: merges whose artifact is read as it was written.
* `MergeTask.alike_of_shares`: merging in parts.
* `MergeTask.mem_contents_of_overwrites`, `MergeTask.IsPlain.run_withFiles`: merging where the
  artifact is.
* `MergeTask.merges_again`: all of this.
-/

namespace CompilerHints

open Text

/-! ### Reading an artifact -/

theorem FragmentDirectory.linesOf_renderArtifact {ls : List String}
    (h : ∀ line ∈ ls, IsLine line) : linesOf (utf8Bytes (renderArtifact ls)) = ls := by
  have hkept : keptLines (renderArtifact ls) = ls := by
    rw [keptLines, renderArtifact, lines_joinLines h, List.filter_eq_self]
    exact fun line hline => decide_eq_true (h line hline).nonempty
  rw [linesOf, ofUtf8Bytes?_utf8Bytes, Option.elim_some, hkept]

/-- A fragment that holds an artifact is read as the set that was written. -/
theorem FragmentDirectory.gather_renderArtifact {additions : List Addition}
    {dir : FragmentDirectory} {name : String}
    (hlines : ∀ line ∈ (CommandSet.empty.addAll additions).finalize, IsLine line)
    (hname : dir.path.reaches name = true) :
    dir.gather [(name, .file (utf8Bytes
        (renderArtifact (CommandSet.empty.addAll additions).finalize)))] (.empty, 0) =
      .ok (CommandSet.empty.addAll additions, 1) := by
  have hset : insertLines .empty (renderArtifact (CommandSet.empty.addAll additions).finalize) =
      CommandSet.empty.addAll additions := by
    have hkept := linesOf_renderArtifact hlines
    rw [linesOf, ofUtf8Bytes?_utf8Bytes, Option.elim_some] at hkept
    rw [insertLines_eq_insertTexts, hkept, CommandSet.addAll_empty]
    exact CommandSet.ofTexts_finalize _
  rw [gather, if_pos hname, ofUtf8Bytes?_utf8Bytes]
  dsimp only
  rw [hset, gather]

namespace MergeTask

variable {task : MergeTask} {charset : Charset}

/-- The merge itself. -/
def run (task : MergeTask) (charset : Charset) : Except Failure MergeReport × FileSystem :=
  merge (some task.dir.path) (some task.output) charset task.files

theorem run_eq_runIn (task : MergeTask) (charset : Charset) :
    task.run charset = task.runIn .asListed charset := rfl

/-- A merge that is possible, of texts none of whose lines ends with a carriage return. -/
structure IsPlain (task : MergeTask) : Prop where
  possible : task.IsPossible
  texts : task.HasTexts
  lines : ∀ line, task.HasLine line → line.toList.getLast? ≠ some '\r'

/-- The artifact in UTF-8. -/
def artifact (task : MergeTask) : Bytes :=
  utf8Bytes (renderArtifact task.commands.finalize)

instance (task : MergeTask) : Decidable task.IsPlain :=
  decidable_of_iff (task.IsPossible ∧ task.HasTexts ∧
      ∀ line ∈ task.lines, line.toList.getLast? ≠ some '\r') <| by
    constructor
    · rintro ⟨hpossible, htexts, hlines⟩
      refine ⟨hpossible, htexts, fun line hline => ?_⟩
      by_cases hne : line = ""
      · subst hne
        decide
      · exact hlines line (mem_lines_iff.2 ⟨hne, hline⟩)
    · rintro ⟨hpossible, htexts, hlines⟩
      exact ⟨hpossible, htexts, fun line hline => hlines line (mem_lines_iff.1 hline).2⟩

theorem isPlain_of_contents_eq_nil (hpossible : task.IsPossible) (h : task.contents = []) :
    task.IsPlain := by
  refine ⟨hpossible, hasTexts_of_contents_eq_nil h, fun line hline => ?_⟩
  obtain ⟨content, hcontent, -⟩ := hline
  rw [h] at hcontent
  cases hcontent

theorem IsPlain.exists_run (h : task.IsPlain) :
    ∃ fs, task.run .utf8 = (.ok task.report, fs) ∧
      task.files.Overwrites task.output task.artifact fs :=
  runIn_of_encode_eq_ok h.possible h.texts (Charset.encode_utf8 _) .asListed

/-- An artifact has the lines that were collected. -/
theorem IsPlain.mem_linesOf_artifact (h : task.IsPlain) {line : String} :
    line ∈ FragmentDirectory.linesOf task.artifact ↔ line ∈ task.lines := by
  have hlines : ∀ line ∈ task.commands.finalize, IsLine line := by
    intro line hline
    obtain ⟨hne, hhas⟩ := mem_lines_iff.1 (CommandSet.mem_finalize_ofTexts.1 hline)
    exact ⟨hne, lineFeed_not_mem hline, h.lines line hhas⟩
  rw [artifact, FragmentDirectory.linesOf_renderArtifact hlines]
  exact CommandSet.mem_finalize_ofTexts

theorem isSome_ofUtf8Bytes?_artifact (task : MergeTask) :
    (ofUtf8Bytes? task.artifact).isSome = true := by
  rw [artifact, ofUtf8Bytes?_utf8Bytes]
  rfl

/-! ### Merging in parts -/

/-- Merging the artifacts of parts comes to the same as merging all fragments at once. -/
theorem alike_of_shares {shares : List MergeTask} {parts whole : MergeTask}
    (hshares : ∀ share ∈ shares, share.IsPlain) (hparts : parts.IsPossible)
    (hwhole : whole.IsPossible)
    (hartifacts : ∀ content, content ∈ parts.contents ↔
      ∃ share ∈ shares, (share.run .utf8).2.read? share.output = some content)
    (hfragments : ∀ content, content ∈ whole.contents ↔
      ∃ share ∈ shares, content ∈ share.contents) (charset : Charset) :
    Alike parts.output whole.output (parts.run charset) (whole.run charset) := by
  have hread (share : MergeTask) (hshare : share ∈ shares) :
      (share.run .utf8).2.read? share.output = some share.artifact := by
    obtain ⟨fs, hrun, hwrote⟩ := (hshares share hshare).exists_run
    rw [hrun]
    exact hwrote.read
  have hcontents (content : Bytes) :
      content ∈ parts.contents ↔ ∃ share ∈ shares, share.artifact = content := by
    rw [hartifacts]
    refine exists_congr fun share => and_congr_right fun hshare => ?_
    rw [hread share hshare, Option.some.injEq]
  have hpartstexts : parts.HasTexts := by
    intro content hcontent
    obtain ⟨share, -, rfl⟩ := (hcontents content).1 hcontent
    exact share.isSome_ofUtf8Bytes?_artifact
  have hwholetexts : whole.HasTexts := by
    intro content hcontent
    obtain ⟨share, hshare, hcontent⟩ := (hfragments content).1 hcontent
    exact (hshares share hshare).texts content hcontent
  -- both sides have the lines that some share has
  have hset : parts.commands = whole.commands := by
    refine CommandSet.ofTexts_eq_iff.2 fun line => ?_
    rw [lines, List.mem_flatMap, lines, List.mem_flatMap]
    constructor
    · rintro ⟨content, hcontent, hline⟩
      obtain ⟨share, hshare, rfl⟩ := (hcontents content).1 hcontent
      rw [(hshares share hshare).mem_linesOf_artifact, lines, List.mem_flatMap] at hline
      obtain ⟨fragment, hfragment, hline⟩ := hline
      exact ⟨fragment, (hfragments fragment).2 ⟨share, hshare, hfragment⟩, hline⟩
    · rintro ⟨fragment, hfragment, hline⟩
      obtain ⟨share, hshare, hfragment⟩ := (hfragments fragment).1 hfragment
      refine ⟨share.artifact, (hcontents _).2 ⟨share, hshare, rfl⟩, ?_⟩
      rw [(hshares share hshare).mem_linesOf_artifact, lines, List.mem_flatMap]
      exact ⟨fragment, hfragment, hline⟩
  exact alike_of_commands hparts hpartstexts hwhole hwholetexts hset .asListed .asListed charset

/-! ### Merging where the artifact is -/

/-- The place of a directory, which stays the same when files are written. -/
theorem exists_home (hpossible : task.IsPossible) :
    ∃ home, ∀ fs, task.files.Grows fs → ∀ name content,
      (name, content) ∈ task.dir.files fs ↔ fs.entry? (home ++ [name]) = some (.file content) := by
  obtain ⟨home, hlocate, hdir⟩ := FileSystem.isDirectory_iff.1 hpossible.directory
  refine ⟨home, fun fs hgrows name content => ?_⟩
  rw [FragmentDirectory.mem_files_iff, hgrows.locate? hlocate]
  simp only [Option.some.injEq, exists_eq_left', hgrows.directory _ hdir, true_and]

theorem mem_contents_iff {content : Bytes} :
    content ∈ task.contents ↔ ∃ name, (name, content) ∈ task.dir.files task.files ∧
      task.dir.path.reaches name = true := by
  simp only [contents, List.mem_map, Prod.exists, FragmentDirectory.mem_readable_iff,
    exists_eq_right]

/-- The same merge, with other files. -/
def withFiles (task : MergeTask) (fs : FileSystem) : MergeTask where
  dir := task.dir
  output := task.output
  files := fs

/-- A file that is written may be one of the files that are read, or take the place of one. -/
theorem mem_contents_of_overwrites (hpossible : task.IsPossible) {output : Path} {bytes : Bytes}
    {fs : FileSystem} (hwrote : task.files.Overwrites output bytes fs) :
    (∀ content ∈ (task.withFiles fs).contents, content = bytes ∨ content ∈ task.contents) ∧
      ∀ content ∈ task.contents,
        content ∈ (task.withFiles fs).contents ∨ bytes ∈ (task.withFiles fs).contents := by
  obtain ⟨home, hhome⟩ := exists_home hpossible
  have hbefore := hhome task.files (FileSystem.AddsDirectories.refl _).grows
  have hafter := hhome fs hwrote.grows
  obtain ⟨loc, hfile⟩ := hwrote.file
  constructor
  · intro content hcontent
    obtain ⟨name, hmem, hreaches⟩ := mem_contents_iff.1 hcontent
    rw [withFiles, hafter, hfile] at hmem
    split at hmem
    · exact .inl hmem
    · exact .inr (mem_contents_iff.2 ⟨name, (hbefore name content).2 hmem, hreaches⟩)
  · intro content hcontent
    obtain ⟨name, hmem, hreaches⟩ := mem_contents_iff.1 hcontent
    rw [hbefore] at hmem
    by_cases hloc : home ++ [name] = loc
    · refine .inr (mem_contents_iff.2 ⟨name, (hafter name bytes).2 ?_, hreaches⟩)
      rw [hfile, if_pos hloc]
    · refine .inl (mem_contents_iff.2 ⟨name, (hafter name content).2 ?_, hreaches⟩)
      rwa [hfile, if_neg hloc]

namespace IsPlain

variable {fs : FileSystem}

theorem isPossible_withFiles (h : task.IsPlain)
    (hwrote : task.files.Overwrites task.output task.artifact fs) :
    (task.withFiles fs).IsPossible where
  directory := hwrote.grows.isDirectory h.possible.directory
  output := by
    rw [← isOk_writeWithParents _ task.artifact]
    exact congrArg (fun result => result.1.isOk) hwrote.again

theorem hasTexts_withFiles (h : task.IsPlain)
    (hwrote : task.files.Overwrites task.output task.artifact fs) :
    (task.withFiles fs).HasTexts := by
  intro content hcontent
  rcases (mem_contents_of_overwrites h.possible hwrote).1 content hcontent with rfl | hcontent
  · exact task.isSome_ofUtf8Bytes?_artifact
  · exact h.texts content hcontent

/-- The artifact adds no line, and has the lines of the file whose place it took. -/
theorem commands_withFiles (h : task.IsPlain)
    (hwrote : task.files.Overwrites task.output task.artifact fs) :
    (task.withFiles fs).commands = task.commands := by
  obtain ⟨hnew, hold⟩ := mem_contents_of_overwrites h.possible hwrote
  refine CommandSet.ofTexts_eq_iff.2 fun line => ?_
  constructor
  · intro hline
    obtain ⟨content, hcontent, hline⟩ := List.mem_flatMap.1 hline
    rcases hnew content hcontent with rfl | hcontent
    · exact h.mem_linesOf_artifact.1 hline
    · exact List.mem_flatMap.2 ⟨content, hcontent, hline⟩
  · intro hline
    obtain ⟨content, hcontent, hmem⟩ := List.mem_flatMap.1 hline
    rcases hold content hcontent with hcontent | hartifact
    · exact List.mem_flatMap.2 ⟨content, hcontent, hmem⟩
    · exact List.mem_flatMap.2 ⟨_, hartifact, h.mem_linesOf_artifact.2 hline⟩

/-- A merge that is done again writes the same and changes nothing, also where it reads what it
wrote. -/
theorem run_withFiles (h : task.IsPlain)
    (hwrote : task.files.Overwrites task.output task.artifact fs) :
    (task.withFiles fs).run .utf8 = (.ok (task.withFiles fs).report, fs) := by
  have hwrite : writeArtifact (task.withFiles fs).output (task.withFiles fs).commands.finalize .utf8
      (task.withFiles fs).files = (.ok task.artifact.length, fs) := by
    rw [h.commands_withFiles hwrote, writeArtifact_of_encode_eq_ok (Charset.encode_utf8 _)]
    exact hwrote.again
  exact runIn_of_writeArtifact (h.isPossible_withFiles hwrote) (h.hasTexts_withFiles hwrote) hwrite
    .asListed

theorem exists_run_again (h : task.IsPlain) :
    ∃ report report' fs, task.run .utf8 = (.ok report, fs) ∧
      (task.withFiles fs).run .utf8 = (.ok report', fs) ∧
      report'.lines = report.lines ∧ report'.quiet = report.quiet := by
  obtain ⟨fs, hrun, hwrote⟩ := h.exists_run
  refine ⟨_, _, fs, hrun, h.run_withFiles hwrote, ?_, ?_⟩
  · rw [report, report, h.commands_withFiles hwrote]
  · rw [report, report, h.commands_withFiles hwrote]

end IsPlain

/-! ### All together -/

/-- An artifact that is read as a fragment gives the set that was written. Merging the artifacts of
parts comes to the same as merging all fragments at once. And a merge that is done again writes the
same and changes nothing, wherever the artifact is. What is read of a directory are the files that a
path reaches. -/
theorem merges_again (additions : List Addition) (dir : FragmentDirectory) (name : String)
    (shares : List MergeTask) (parts whole task : MergeTask) (charset : Charset) :
    ((∀ line ∈ (CommandSet.empty.addAll additions).finalize, IsLine line) →
      dir.path.reaches name = true →
      dir.gather [(name, .file (utf8Bytes
          (renderArtifact (CommandSet.empty.addAll additions).finalize)))] (.empty, 0) =
        .ok (CommandSet.empty.addAll additions, 1)) ∧
    ((∀ share ∈ shares, share.IsPlain) → parts.IsPossible → whole.IsPossible →
      (∀ content, content ∈ parts.contents ↔
        ∃ share ∈ shares, (share.run .utf8).2.read? share.output = some content) →
      (∀ content, content ∈ whole.contents ↔ ∃ share ∈ shares, content ∈ share.contents) →
      (∀ share ∈ shares, (share.run .utf8).1.isOk = true) ∧
        Alike parts.output whole.output (parts.run charset) (whole.run charset)) ∧
    (task.IsPlain →
      ∃ report report' fs, task.run .utf8 = (.ok report, fs) ∧
        (task.withFiles fs).run .utf8 = (.ok report', fs) ∧
        report'.lines = report.lines ∧ report'.quiet = report.quiet) := by
  refine ⟨FragmentDirectory.gather_renderArtifact, ?_, IsPlain.exists_run_again⟩
  intro hshares hparts hwhole hartifacts hfragments
  refine ⟨fun share hshare => ?_,
    alike_of_shares hshares hparts hwhole hartifacts hfragments charset⟩
  obtain ⟨fs, hrun, -⟩ := (hshares share hshare).exists_run
  rw [hrun]
  rfl

/-- Two directories that were merged into a third, which is then merged into itself; and the third
given by so long a path that the artifacts in it are not reached. -/
theorem merges_again_of_two_parts :
    let files := filesOf
      [(["a"], .directory), (["a", "1"], .file (utf8Bytes "x\n")),
        (["b"], .directory), (["b", "1"], .file (utf8Bytes "quiet\r\ny")),
        (["w"], .directory), (["w", "1"], .file (utf8Bytes "x\n")),
        (["w", "2"], .file (utf8Bytes "quiet\r\ny")),
        (["p"], .directory), (["p", "artifact-of-a"], .file (utf8Bytes "x\n")),
        (["p", "artifact-of-b"], .file (utf8Bytes "quiet\ny\n"))]
    let shares : List MergeTask :=
      [⟨⟨⟨"a"⟩⟩, ⟨"p/artifact-of-a"⟩, files⟩, ⟨⟨⟨"b"⟩⟩, ⟨"p/artifact-of-b"⟩, files⟩]
    let whole : MergeTask := ⟨⟨⟨"w"⟩⟩, ⟨"o"⟩, files⟩
    let parts : MergeTask := ⟨⟨⟨"p"⟩⟩, ⟨"o"⟩, files⟩
    let inside : MergeTask := ⟨⟨⟨"p"⟩⟩, ⟨"p/all"⟩, files⟩
    let far := parts.detour 2045
    parts.dir.gather [("1", .file (utf8Bytes "quiet\ny\n"))] (.empty, 0) =
        .ok (CommandSet.empty.addAll [.text "y", .quiet], 1) ∧
      ((∀ share ∈ shares, (share.run .utf8).1.isOk = true) ∧
        Alike parts.output whole.output (parts.run .utf16le) (whole.run .utf16le)) ∧
      (∃ report report' fs, inside.run .utf8 = (.ok report, fs) ∧
        (inside.withFiles fs).run .utf8 = (.ok report', fs) ∧ report'.lines = report.lines ∧
          report'.quiet = report.quiet) ∧
      far.dir.files files = parts.dir.files files ∧
      ¬ Alike far.output whole.output (far.run .utf8) (whole.run .utf8) := by
  intro files shares whole parts inside far
  obtain ⟨hread, hshares, hagain⟩ :=
    merges_again [.text "y", .quiet] parts.dir "1" shares parts whole inside .utf16le
  have hparts : parts.IsPossible := by decide +kernel
  have hwhole : whole.IsPossible := by decide +kernel
  have hreach : parts.IsOutOfReach 2045 := ⟨by decide, by decide +kernel⟩
  have hempty : far.contents = [] := contents_detour hparts hreach
  have hfar : far.IsPlain := isPlain_of_contents_eq_nil (hparts.detour hreach) hempty
  have hartifacts : parts.contents.map some =
      shares.map fun share => (share.run .utf8).2.read? share.output := by decide +kernel
  have hfragments : whole.contents = shares.flatMap contents := by decide +kernel
  refine ⟨?_, hshares (by decide +kernel) hparts hwhole ?_ ?_, hagain (by decide +kernel),
    files_detour hparts hreach, fun hsame => ?_⟩
  · have hset := hread (by decide +kernel) (by decide +kernel)
    have htext : renderArtifact (CommandSet.empty.addAll [.text "y", .quiet]).finalize =
        "quiet\ny\n" := by decide +kernel
    rwa [htext] at hset
  · intro content
    have hmem : some content ∈ parts.contents.map some ↔ content ∈ parts.contents := by simp
    rw [← hmem, hartifacts, List.mem_map]
  · intro content
    rw [hfragments, List.mem_flatMap]
  · -- the whole has a quiet, and nothing is read through the long path
    obtain ⟨fs, hrun, -⟩ := hfar.exists_run
    clear_value far
    rw [run_eq_runIn] at hrun hsame
    rw [run_eq_runIn] at hsame
    have hok : (far.runIn .asListed .utf8).1.isOk = true := by rw [hrun]; rfl
    have hsamelines : far.HasLine quietText ↔ whole.HasLine quietText :=
      hasLine_iff_of_alike hfar.possible hfar.texts hwhole (by decide +kernel) hok hsame (by decide)
    have hquiet := hsamelines.2 (mem_lines_iff.1 (by decide +kernel)).2
    obtain ⟨content, hcontent, -⟩ := hquiet
    rw [hempty] at hcontent
    cases hcontent

end MergeTask

end CompilerHints
