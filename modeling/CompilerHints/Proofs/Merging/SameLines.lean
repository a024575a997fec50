import CompilerHints.Proofs.Detour
import CompilerHints.Proofs.Lines
import CompilerHints.Proofs.Merge
import CompilerHints.Proofs.Writing

/-!
# What a merge depends on

A merge writes the lines that stand in the files it reads. What the files are called, how many there
are, in which order they come, how the lines are distributed among them, how often a line comes and
whether it ends with a carriage return and a line feed does not matter.

* `MergeTask`: a merge that is to be done.
* `MergeTask.HasLine`, `MergeTask.mem_lines_iff`: the lines that stand in its files.
* `MergeTask.runIn_of_encode_eq_ok`, `MergeTask.runIn_of_encode_eq_error`: what becomes of it.
* `MergeTask.Alike`, `MergeTask.Reports`: merges that come to the same, and a report that is right.
* `MergeTask.IsOutOfReach`, `MergeTask.contents_detour`: files that are not read.
* `MergeTask.alike_of_sameLines`, `MergeTask.hasLine_iff_of_alike`: merges of the same lines, and
  only they, come to the same.
-/

namespace CompilerHints

open Text FragmentDirectory

/-! ### Merges that are to be done -/

/-- A directory that is to be merged, where the artifact is to be written, and the files there
are. -/
structure MergeTask where
  dir : FragmentDirectory
  output : Path
  files : FileSystem

namespace MergeTask

variable {task a b : MergeTask} {charset : Charset} {order : Enumeration}

/-- Merges when the entries of the directory come in a given order. -/
def runIn (task : MergeTask) (order : Enumeration) (charset : Charset) :
    Except Failure MergeReport × FileSystem :=
  mergeIn order (some task.dir.path) (some task.output) charset task.files

/-- The directory is there, and the artifact can be written. -/
structure IsPossible (task : MergeTask) : Prop where
  directory : task.files.isDirectory task.dir.path = true
  output : task.files.canWrite task.output = true

instance (task : MergeTask) : Decidable task.IsPossible :=
  decidable_of_iff
    (task.files.isDirectory task.dir.path = true ∧ task.files.canWrite task.output = true)
    ⟨fun ⟨hdirectory, houtput⟩ => ⟨hdirectory, houtput⟩, fun h => ⟨h.directory, h.output⟩⟩

/-- The contents of the files that are read, which are those that a path reaches. -/
def contents (task : MergeTask) : List Bytes :=
  (task.dir.readable task.files).map Prod.snd

/-- All files that are read are texts. -/
def HasTexts (task : MergeTask) : Prop :=
  ∀ content ∈ task.contents, (ofUtf8Bytes? content).isSome = true

instance (task : MergeTask) : Decidable task.HasTexts :=
  inferInstanceAs (Decidable (∀ content ∈ task.contents, (ofUtf8Bytes? content).isSome = true))

/-- A line stands in one of the files that are read. -/
def HasLine (task : MergeTask) (line : String) : Prop :=
  ∃ content ∈ task.contents, ∃ text, ofUtf8Bytes? content = some text ∧
    StandsIn line.toList text.toList

/-- The lines that are collected. -/
def lines (task : MergeTask) : List String :=
  task.contents.flatMap linesOf

/-- The set of the lines that are collected. -/
def commands (task : MergeTask) : CommandSet :=
  .ofTexts task.lines

theorem lines_eq_linesAmong (task : MergeTask) :
    task.lines = linesAmong (task.dir.readable task.files) :=
  List.flatMap_map ..

theorem length_contents (task : MergeTask) :
    task.contents.length = (task.dir.readable task.files).length :=
  List.length_map _

theorem HasTexts.areTexts (h : task.HasTexts) :
    AreTexts (task.dir.readable task.files) :=
  fun _ hfile => h _ (List.mem_map_of_mem hfile)

/-- The lines that are collected are those that stand in the files, without the empty one. -/
theorem mem_lines_iff {line : String} : line ∈ task.lines ↔ line ≠ "" ∧ task.HasLine line := by
  have hcontent (content : Bytes) : line ∈ linesOf content ↔
      line ≠ "" ∧ ∃ text, ofUtf8Bytes? content = some text ∧
        StandsIn line.toList text.toList := by
    rw [linesOf]
    cases ofUtf8Bytes? content with
    | none => simp
    | some text =>
      simp [keptLines, Text.mem_lines_iff, and_comm]
  rw [lines, List.mem_flatMap, HasLine]
  simp only [hcontent]
  constructor
  · rintro ⟨content, hmem, hne, hstands⟩
    exact ⟨hne, content, hmem, hstands⟩
  · rintro ⟨hne, content, hmem, hstands⟩
    exact ⟨content, hmem, hne, hstands⟩

/-- Merges of the same lines collect the same set. -/
theorem commands_congr (h : ∀ line, line ≠ "" → (a.HasLine line ↔ b.HasLine line)) :
    a.commands = b.commands := by
  refine CommandSet.ofTexts_eq_iff.2 fun line => ?_
  rw [mem_lines_iff, mem_lines_iff]
  exact and_congr_right (h line)

theorem lineFeed_not_mem {line : String} (h : line ∈ task.commands.finalize) :
    '\n' ∉ line.toList := by
  obtain ⟨-, _, -, _, -, hstands⟩ := mem_lines_iff.1 (CommandSet.mem_finalize_ofTexts.1 h)
  exact hstands.1

/-! ### What becomes of a merge -/

/-- In whatever order the entries come, their lines are collected. -/
theorem collectIn_eq_ok (hpossible : task.IsPossible) (htexts : task.HasTexts)
    (order : Enumeration) :
    collectIn order task.dir task.files = .ok (task.commands, task.contents.length) := by
  have hcollect := FragmentDirectory.collectIn_eq_ok hpossible.directory htexts.areTexts order
  rwa [← lines_eq_linesAmong, ← length_contents] at hcollect

/-- The report of a merge that wrote its lines. -/
def report (task : MergeTask) : MergeReport where
  fragments := task.contents.length
  lines := task.commands.finalize.length
  quiet := task.commands.quiet
  output := task.output

theorem runIn_of_writeArtifact (hpossible : task.IsPossible) (htexts : task.HasTexts)
    {count : Nat} {fs : FileSystem}
    (hwrite : writeArtifact task.output task.commands.finalize charset task.files = (.ok count, fs))
    (order : Enumeration) : task.runIn order charset = (.ok task.report, fs) := by
  rw [runIn, mergeIn_of_collectIn (collectIn_eq_ok hpossible htexts order), hwrite]
  rfl

/-- A merge writes its lines, if the charset has their characters. -/
theorem runIn_of_encode_eq_ok (hpossible : task.IsPossible) (htexts : task.HasTexts)
    {bytes : Bytes} (hencode : charset.encode (renderArtifact task.commands.finalize) = .ok bytes)
    (order : Enumeration) :
    ∃ fs, task.runIn order charset = (.ok task.report, fs) ∧
      task.files.Overwrites task.output bytes fs := by
  obtain ⟨fs, hwrite, hoverwrites⟩ := overwrites_of_canWrite hpossible.output bytes
  rw [← writeArtifact_of_encode_eq_ok hencode] at hwrite
  exact ⟨fs, runIn_of_writeArtifact hpossible htexts hwrite order, hoverwrites⟩

/-- A merge stops at the first character that the charset lacks. -/
theorem runIn_of_encode_eq_error (hpossible : task.IsPossible) (htexts : task.HasTexts)
    {cause : Unencodable}
    (hencode : charset.encode (renderArtifact task.commands.finalize) = .error cause)
    (order : Enumeration) :
    task.runIn order charset = (.error (.unmappable cause), task.files) := by
  rw [runIn, mergeIn_of_collectIn (collectIn_eq_ok hpossible htexts order),
    writeArtifact_of_encode_eq_error hencode]

/-! ### Two merges -/

/-- Two merges wrote the same bytes, and report as many lines and the same about `quiet`; or both
stopped at the same character that the charset lacks. -/
def Alike (output output' : Path) (x y : Except Failure MergeReport × FileSystem) : Prop :=
  (∃ report report' bytes, x.1 = .ok report ∧ y.1 = .ok report' ∧
    x.2.read? output = some bytes ∧ y.2.read? output' = some bytes ∧
    report.lines = report'.lines ∧ report.quiet = report'.quiet) ∨
  ∃ cause, x.1 = .error (.unmappable cause) ∧ y.1 = .error (.unmappable cause)

/-- Merges that collect the same set come to the same. -/
theorem alike_of_commands (ha : a.IsPossible) (hatexts : a.HasTexts) (hb : b.IsPossible)
    (hbtexts : b.HasTexts) (hset : a.commands = b.commands) (order order' : Enumeration)
    (charset : Charset) :
    Alike a.output b.output (a.runIn order charset) (b.runIn order' charset) := by
  cases hencode : charset.encode (renderArtifact a.commands.finalize) with
  | ok bytes =>
    obtain ⟨fs, hrun, hwrote⟩ := runIn_of_encode_eq_ok ha hatexts hencode order
    rw [hset] at hencode
    obtain ⟨fs', hrun', hwrote'⟩ := runIn_of_encode_eq_ok hb hbtexts hencode order'
    rw [hrun, hrun']
    refine .inl ⟨a.report, b.report, bytes, rfl, rfl, hwrote.read, hwrote'.read, ?_, ?_⟩
    · rw [report, report, hset]
    · rw [report, report, hset]
  | error cause =>
    rw [runIn_of_encode_eq_error ha hatexts hencode]
    rw [hset] at hencode
    rw [runIn_of_encode_eq_error hb hbtexts hencode]
    exact .inr ⟨cause, rfl, rfl⟩

/-- What a report says is so: as many fragments as files were read, which are all files of the
directory exactly if a path reaches them all, and as many lines as the artifact has, which are those
that stand in the files. -/
structure Reports (task : MergeTask) (charset : Charset) (report : MergeReport)
    (fs : FileSystem) : Prop where
  fragments : report.fragments = task.contents.length
  everyFile : report.fragments = (task.dir.files task.files).length ↔
    ∀ file ∈ task.dir.files task.files, task.dir.path.reaches file.1 = true
  quiet : report.quiet = true ↔ task.HasLine quietText
  written : ∃ text bytes, charset.encode text = .ok bytes ∧ fs.read? task.output = some bytes ∧
    report.lines = (pieces text).length ∧
    ∀ line, line ∈ pieces text ↔ line ≠ "" ∧ task.HasLine line

theorem reports_of_runIn (hpossible : task.IsPossible) (htexts : task.HasTexts)
    {report : MergeReport} {fs : FileSystem}
    (h : task.runIn order charset = (.ok report, fs)) : task.Reports charset report fs := by
  cases hencode : charset.encode (renderArtifact task.commands.finalize) with
  | error cause =>
    rw [runIn_of_encode_eq_error hpossible htexts hencode] at h
    cases h
  | ok bytes =>
    obtain ⟨fs', hrun, hwrote⟩ := runIn_of_encode_eq_ok hpossible htexts hencode order
    rw [hrun] at h
    cases h
    have hpieces : pieces (renderArtifact task.commands.finalize) = task.commands.finalize :=
      pieces_joinLines fun _ => lineFeed_not_mem
    refine ⟨rfl, ?_, ?_, _, bytes, hencode, hwrote.read, ?_, fun line => ?_⟩
    · show task.contents.length = _ ↔ _
      rw [length_contents, readable_eq_filter, List.length_filter_eq_length_iff]
    · show (CommandSet.ofTexts task.lines).quiet = true ↔ _
      rw [CommandSet.quiet_ofTexts, mem_lines_iff, and_iff_right (by decide)]
    · rw [hpieces]
      rfl
    · rw [hpieces, commands, CommandSet.mem_finalize_ofTexts, mem_lines_iff]

/-- Merges that wrote the same have the same lines: encoded lines are told apart. -/
theorem hasLine_iff_of_alike (ha : a.IsPossible) (hatexts : a.HasTexts) (hb : b.IsPossible)
    (hbtexts : b.HasTexts) {order order' : Enumeration}
    (hok : (a.runIn order charset).1.isOk = true)
    (h : Alike a.output b.output (a.runIn order charset) (b.runIn order' charset)) {line : String}
    (hne : line ≠ "") : a.HasLine line ↔ b.HasLine line := by
  rcases h with ⟨report, report', bytes, hrun, hrun', hread, hread', -⟩ | ⟨cause, hrun, -⟩
  · obtain ⟨text, _, hencode, hwritten, -, hlines⟩ :=
      (reports_of_runIn ha hatexts (Prod.ext hrun rfl)).written
    obtain ⟨text', _, hencode', hwritten', -, hlines'⟩ :=
      (reports_of_runIn hb hbtexts (Prod.ext hrun' rfl)).written
    cases hread.symm.trans hwritten
    cases hread'.symm.trans hwritten'
    have htext : text = text' := Charset.encode_inj hencode hencode'
    subst htext
    have hline := (hlines line).symm.trans (hlines' line)
    rwa [and_iff_right hne, and_iff_right hne] at hline
  · rw [hrun] at hok
    cases hok

/-! ### Files that no path reaches -/

theorem hasTexts_of_contents_eq_nil (h : task.contents = []) : task.HasTexts := by
  rw [HasTexts, h]
  exact List.forall_mem_nil _

/-- The same merge, with a longer path to the same directory. -/
def detour (task : MergeTask) (n : Nat) : MergeTask where
  dir := ⟨task.dir.path.detour n⟩
  output := task.output
  files := task.files

/-- The longer path still leads to the directory, but reaches none of its files. -/
structure IsOutOfReach (task : MergeTask) (n : Nat) : Prop where
  length : task.dir.path.text.utf8ByteSize + 2 * n ≤ Path.maxLength
  names : ∀ file ∈ task.dir.files task.files, (Path.mk file.1).isAbsolute = false ∧
    Path.maxLength < task.dir.path.text.utf8ByteSize + 2 * n + file.1.utf8ByteSize

variable {n : Nat}

theorem IsPossible.detour (h : task.IsPossible) (hreach : task.IsOutOfReach n) :
    (task.detour n).IsPossible where
  directory := FileSystem.isDirectory_detour h.directory hreach.length
  output := h.output

theorem files_detour (h : task.IsPossible) (hreach : task.IsOutOfReach n) :
    (task.detour n).dir.files task.files = task.dir.files task.files := by
  rw [FragmentDirectory.files, detour, FileSystem.list?_detour h.directory hreach.length]
  rfl

/-- The files are there, and none of them is read. -/
theorem contents_detour (h : task.IsPossible) (hreach : task.IsOutOfReach n) :
    (task.detour n).contents = [] := by
  have hnone : (task.detour n).dir.readable task.files = [] := by
    rw [readable_eq_filter, files_detour h hreach, List.filter_eq_nil_iff]
    intro file hfile
    obtain ⟨hname, hlength⟩ := hreach.names file hfile
    rw [← Path.utf8ByteSize_detour] at hlength
    rw [detour, Path.reaches_eq_false hname hlength]
    exact Bool.false_ne_true
  exact congrArg (List.map Prod.snd) hnone

/-! ### Merges of the same lines -/

theorem hasLine_iff_of_lines (h : ∀ line, line ∈ a.lines ↔ line ∈ b.lines) (line : String)
    (hne : line ≠ "") : a.HasLine line ↔ b.HasLine line := by
  have hline := h line
  rwa [mem_lines_iff, mem_lines_iff, and_iff_right hne, and_iff_right hne] at hline

/-- Merges of the same lines come to the same, in whatever order the entries come, and report what
they read and wrote. A file of the directory that no path reaches is not read, and not counted. -/
theorem alike_of_sameLines (ha : a.IsPossible) (hatexts : a.HasTexts) (hb : b.IsPossible)
    (hbtexts : b.HasTexts) (hlines : ∀ line, line ≠ "" → (a.HasLine line ↔ b.HasLine line))
    (order order' : Enumeration) (charset : Charset) :
    Alike a.output b.output (a.runIn order charset) (b.runIn order' charset) ∧
      (∀ report fs, a.runIn order charset = (.ok report, fs) → a.Reports charset report fs) ∧
      ∀ report fs, b.runIn order' charset = (.ok report, fs) → b.Reports charset report fs :=
  ⟨alike_of_commands ha hatexts hb hbtexts (commands_congr hlines) order order' charset,
    fun _ _ => reports_of_runIn ha hatexts, fun _ _ => reports_of_runIn hb hbtexts⟩

/-- The files that hold given entries and nothing else, with the root as working directory. -/
def filesOf (entries : List (Location × Entry)) : FileSystem :=
  entries.foldl (fun fs entry => fs.put entry.1 entry.2) (.inDirectory [])

/-- One line in one file and in two, with other ends; and a directory that is given by so long a
path that its only file is not reached, beside one with blank lines. -/
theorem alike_of_line_in_two_files :
    let name := "inline-a.B3a3am202829V"
    let files := filesOf
      [(["d"], .directory), (["d", name], .file (utf8Bytes "x")),
        (["e"], .directory), (["e", "1"], .file (utf8Bytes "x\r\n\n")),
        (["e", "2"], .file (utf8Bytes "\nx")),
        (["f"], .directory), (["f", "1"], .file (utf8Bytes "\n\r\n"))]
    let one : MergeTask := ⟨⟨⟨"d"⟩⟩, ⟨"o"⟩, files⟩
    let two : MergeTask := ⟨⟨⟨"e"⟩⟩, ⟨"o"⟩, files⟩
    let blank : MergeTask := ⟨⟨⟨"f"⟩⟩, ⟨"o"⟩, files⟩
    let far := one.detour 2040
    Alike one.output two.output (one.runIn .asListed .utf16be) (two.runIn .reversed .utf16be) ∧
      Alike far.output blank.output (far.runIn .asListed .utf8) (blank.runIn .asListed .utf8) ∧
      far.dir.files files = [(name, utf8Bytes "x")] ∧
      ∀ report fs, far.runIn .asListed .utf8 = (.ok report, fs) → report.fragments = 0 := by
  intro name files one two blank far
  have hone : one.IsPossible := by decide +kernel
  have htwo : two.IsPossible := by decide +kernel
  have hblank : blank.IsPossible := by decide +kernel
  have hreach : one.IsOutOfReach 2040 := ⟨by decide, by decide +kernel⟩
  have hempty : far.contents = [] := contents_detour hone hreach
  obtain ⟨halike, -⟩ := alike_of_sameLines hone (by decide +kernel) htwo (by decide +kernel)
    (hasLine_iff_of_lines fun line => by
      have hlines : one.lines = ["x"] := by decide +kernel
      have hlines' : two.lines = ["x", "x"] := by decide +kernel
      simp [hlines, hlines'])
    .asListed .reversed .utf16be
  obtain ⟨halike', hreports, -⟩ := alike_of_sameLines (hone.detour hreach)
    (hasTexts_of_contents_eq_nil hempty) hblank (by decide +kernel)
    (hasLine_iff_of_lines fun line => by
      have hlines : blank.lines = [] := by decide +kernel
      rw [hlines, lines, hempty, List.flatMap_nil])
    .asListed .asListed .utf8
  refine ⟨halike, halike', ?_, fun report fs hrun => ?_⟩
  · rw [files_detour hone hreach]
    decide +kernel
  · rw [(hreports report fs hrun).fragments, hempty, List.length_nil]

end MergeTask

end CompilerHints
