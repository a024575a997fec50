import CompilerHints.Proofs.Incremental.Clearing
import CompilerHints.Proofs.Incremental.Series
import CompilerHints.Proofs.Incremental.Units

/-!
# Rebuilding after a clear

Which lines units keep depends on what they accept, not on the files, and which files there are in
the end depends on these lines only, if there were none before. So a directory that was cleared
serves as well as an empty one.

* `Units.toKeepAll`, `Units.keepAll?_of_acceptAll`: the lines that units keep.
* `Units.exists_mem_toKeepAll`: every accepted line has its name among the lines that are kept.
* `lastKept?`, `FragmentDirectory.mem_readable_of_keepAll?`: the files that a series of lines
  leaves.
* `FragmentDirectory.MergesAlike`: two directories that merge to the same.
* `FragmentDirectory.Clears`, `FragmentDirectory.clears`: what clearing a directory is good for.
-/

namespace CompilerHints

open Text

/-! ### What units keep -/

namespace Units

variable {ι : Type} [DecidableEq ι] {dir : FragmentDirectory} {u v : Units ι}
  {calls : List (ι × Line)}

/-- The lines that are kept for lines that units accept one after the other, by what each unit knows
before. -/
def toKeepAll (sets : ι → CommandSet) : List (ι × Line) → List Line
  | [] => []
  | (i, line) :: rest =>
    (sets i).toKeep line ++
      toKeepAll (Function.update sets i ((sets i).insertText line.text).2) rest

/-- A unit that takes a line keeps its directory. -/
theorem fragments?_update (u : Units ι) (i : ι) (line : Line) (j : ι) :
    (Function.update u.collectors i ((u.collectors i).record [line]) j).fragments? =
      (u.collectors j).fragments? := by
  rw [Function.update_apply]
  split
  · next e =>
    rw [e]
    rfl
  · rfl

/-- A unit that takes a line knows its text. -/
theorem commands_update (u : Units ι) (i : ι) (line : Line) :
    (fun j => (Function.update u.collectors i ((u.collectors i).record [line]) j).commands) =
      Function.update (fun j => (u.collectors j).commands) i
        ((u.collectors i).commands.insertText line.text).2 := by
  funext j
  rw [Function.update_apply, Function.update_apply]
  split <;> rfl

/-- Units that accept lines without fail keep the lines that are to be kept. -/
theorem keepAll?_of_acceptAll (hdir : ∀ i, (u.collectors i).fragments? = some dir)
    (h : u.acceptAll calls = some v) :
    dir.keepAll? u.files (toKeepAll (fun i => (u.collectors i).commands) calls) = some v.files := by
  induction calls generalizing u with
  | nil =>
    cases h
    rfl
  | cons call rest ih =>
    obtain ⟨i, line⟩ := call
    obtain ⟨next, hnext, hrest⟩ := Option.bind_eq_some_iff.1 h
    unfold Units.accept at hnext
    split at hnext
    · next isNew c fs haccept =>
      cases hnext
      obtain ⟨rfl, hkeep⟩ := (Collector.accept_eq_ok_iff (hdir i)).1 ⟨isNew, haccept⟩
      have hlater := ih (fun j => (u.fragments?_update i line j).trans (hdir j)) hrest
      rw [u.commands_update] at hlater
      rw [toKeepAll, FragmentDirectory.keepAll?_append, hkeep]
      exact hlater
    · cases hnext

/-- Only accepted lines are kept. -/
theorem mem_of_mem_toKeepAll {sets : ι → CommandSet} {kept : Line}
    (h : kept ∈ toKeepAll sets calls) : kept ∈ calls.map Prod.snd := by
  induction calls generalizing sets with
  | nil => cases h
  | cons call rest ih =>
    rcases List.mem_append.1 h with h | h
    · unfold CommandSet.toKeep at h
      split at h
      · cases h
      · rw [List.mem_singleton.1 h]
        exact List.mem_cons_self
    · exact List.mem_cons_of_mem _ (ih h)

/-- Every line that a unit accepts is kept, or one of its name is, unless the unit knew its text
before. -/
theorem exists_mem_toKeepAll (sets : ι → CommandSet) {i : ι} {line : Line}
    (h : (i, line) ∈ calls) :
    (line.isQuiet = false ∧ line.text ∈ (sets i).lines) ∨
      ∃ kept ∈ toKeepAll sets calls, kept.fragmentName = line.fragmentName := by
  induction calls generalizing sets with
  | nil => cases h
  | cons call rest ih =>
    obtain ⟨j, first⟩ := call
    have hfirst : (first.isQuiet = false ∧ first.text ∈ (sets j).lines) ∨
        ∃ kept ∈ toKeepAll sets ((j, first) :: rest), kept.fragmentName = first.fragmentName := by
      by_cases hknown : first.isQuiet = false ∧ first.text ∈ (sets j).lines
      · exact .inl hknown
      · refine .inr ⟨first, ?_, rfl⟩
        rw [toKeepAll, CommandSet.toKeep, if_neg hknown]
        exact List.mem_append_left _ List.mem_cons_self
    rcases List.mem_cons.1 h with e | h
    · obtain ⟨rfl, rfl⟩ := Prod.mk.inj e
      exact hfirst
    · rcases ih (Function.update sets j ((sets j).insertText first.text).2) h with
        ⟨hquiet, htext⟩ | ⟨kept, hkept, hname⟩
      · rw [Function.update_apply] at htext
        split at htext
        · next e =>
          subst e
          rcases CommandSet.mem_lines_insertText.1 htext with htext | ⟨htext, -⟩
          · exact .inl ⟨hquiet, htext⟩
          · -- the first line reads the same, so its fragment serves for both
            have hname := Line.fragmentName_of_text_eq hquiet htext
            rcases hfirst with ⟨-, hknown⟩ | ⟨kept, hkept, hsame⟩
            · exact .inl ⟨hquiet, htext ▸ hknown⟩
            · exact .inr ⟨kept, hkept, hsame.trans hname.symm⟩
        · exact .inl ⟨hquiet, htext⟩
      · exact .inr ⟨kept, List.mem_append_right _ hkept, hname⟩

/-- The first line that a unit accepts is kept. -/
theorem toKeepAll_start_ne_nil (hne : calls ≠ []) :
    toKeepAll (fun _ : ι => CommandSet.empty) calls ≠ [] := by
  obtain ⟨⟨i, line⟩, rest, rfl⟩ := List.exists_cons_of_ne_nil hne
  have hfirst : CommandSet.empty.toKeep line = [line] :=
    if_neg fun ⟨_, hknown⟩ => by simp [CommandSet.empty] at hknown
  rw [toKeepAll, hfirst]
  exact List.cons_ne_nil _ _

end Units

/-! ### What a series of lines leaves -/

/-- The line of a name that comes last. -/
def lastKept? (lines : List Line) (name : String) : Option Line :=
  lines.reverse.find? fun line => line.fragmentName = name

namespace FragmentDirectory

variable {dir dir' : FragmentDirectory} {fs fs' : FileSystem} {lines : List Line}

theorem lastPut?_puts (dir : FragmentDirectory) (fs : FileSystem) (lines : List Line)
    (name : String) :
    FileSystem.lastPut? (dir.puts fs lines) (dir.home fs ++ [name]) =
      (lastKept? lines name).map fun line => .file (utf8Bytes line.text) := by
  have hname (other : String) : dir.home fs ++ [other] = dir.home fs ++ [name] ↔ other = name := by
    rw [List.append_cancel_left_eq, List.singleton_inj]
  rw [FileSystem.lastPut?, puts, ← List.map_reverse, List.find?_map, Option.map_map, lastKept?]
  simp only [Function.comp_def, hname]

theorem reaches_of_lastKept? {name : String} {line : Line}
    (hcan : ∀ line ∈ lines, dir.CanKeep fs line) (h : lastKept? lines name = some line) :
    dir.path.reaches name = true := by
  unfold lastKept? at h
  have hname : line.fragmentName = name := by simpa using List.find?_some h
  rw [← hname]
  exact (hcan line (List.mem_reverse.1 (List.mem_of_find?_eq_some h))).reaches

/-- A series of lines leaves one file for each name, with the text of the line that came last,
beside the files there were before. -/
theorem entry?_of_keepAll? (h : dir.keepAll? fs lines = some fs') (name : String)
    (content : Bytes) :
    fs'.entry? (dir.home fs ++ [name]) = some (.file content) ↔
      (∃ line, lastKept? lines name = some line ∧ content = utf8Bytes line.text) ∨
        (lastKept? lines name = none ∧
          fs.entry? (dir.home fs ++ [name]) = some (.file content)) := by
  obtain ⟨mid, hadds, -, -, rfl⟩ := exists_putAll_of_keepAll? h
  rw [← home_of_grows hadds.grows, FileSystem.entry?_putAll ne_nil_of_mem_puts, lastPut?_puts]
  cases lastKept? lines name with
  | none => simp [hadds.entry?_eq_file_iff]
  | some line => simp [eq_comm]

/-- After a series of lines the directory is there, if there was anything to keep. -/
theorem isReady_of_keepAll? (hready : dir.IsReady fs ∨ lines ≠ [])
    (h : dir.keepAll? fs lines = some fs') : dir.IsReady fs' := by
  obtain ⟨mid, hadds, hmade, hcan, rfl⟩ := exists_putAll_of_keepAll? h
  refine IsReady.of_grows ?_ (grows_putAll hcan)
  rcases hready with hready | hne
  · exact hready.of_grows hadds.grows
  · obtain ⟨line, hline⟩ := List.exists_mem_of_ne_nil lines hne
    have hfirst := hcan line hline
    exact ⟨FileSystem.isUsable_of_createDirectories (hmade hne), hfirst.walk, hfirst.directory⟩

/-- Where there was no file before, the files of the series are those that are read. -/
theorem mem_readable_of_keepAll? (hpath : dir.path.text ≠ "") (hempty : dir.HasNoFile fs)
    (hready : dir.IsReady fs ∨ lines ≠ []) (h : dir.keepAll? fs lines = some fs') (name : String)
    (content : Bytes) :
    (name, content) ∈ dir.readable fs' ↔
      ∃ line, lastKept? lines name = some line ∧ content = utf8Bytes line.text := by
  obtain ⟨mid, hadds, -, hcan, hputs⟩ := exists_putAll_of_keepAll? h
  have hhome : dir.home fs' = dir.home fs := by
    rw [hputs, home_putAll, home_of_grows hadds.grows]
  rw [mem_readable_iff, (isReady_of_keepAll? hready h).mem_files_iff hpath, hhome,
    entry?_of_keepAll? h]
  constructor
  · rintro ⟨hkept | ⟨-, hfile⟩, -⟩
    · exact hkept
    · exact absurd hfile (hempty name content)
  · rintro ⟨line, hlast, rfl⟩
    exact ⟨.inl ⟨line, hlast, rfl⟩, reaches_of_lastKept? hcan hlast⟩

/-! ### Directories that merge to the same -/

/-- Directories in which the same files are read, all of them texts, are collected to the same. -/
theorem exists_collect_eq (hdir : fs.isDirectory dir.path = true)
    (hdir' : fs'.isDirectory dir'.path = true) (htexts : AreTexts (dir.readable fs))
    (hsame : ∀ file, file ∈ dir.readable fs ↔ file ∈ dir'.readable fs') :
    ∃ set n, dir.collect fs = .ok (set, n) ∧ dir'.collect fs' = .ok (set, n) := by
  have hperm : (dir.readable fs).Perm (dir'.readable fs') :=
    (List.perm_ext_iff_of_nodup (dir.nodup_readable fs) (dir'.nodup_readable fs')).2
      fun {file} => hsame file
  have htexts' : AreTexts (dir'.readable fs') := fun file hfile =>
    htexts file ((hsame file).2 hfile)
  have hset : CommandSet.ofTexts (linesAmong (dir.readable fs)) =
      CommandSet.ofTexts (linesAmong (dir'.readable fs')) :=
    CommandSet.insertTexts_perm _ (hperm.flatMap_right _)
  have hcollect' := collectIn_eq_ok hdir' htexts' .asListed
  rw [← hset, ← hperm.length_eq] at hcollect'
  exact ⟨_, _, collectIn_eq_ok hdir htexts .asListed, hcollect'⟩

/-- Two directories are collected to the same lines from as many files, and merge to the same
artifact. -/
structure MergesAlike (dir dir' : FragmentDirectory) (fs fs' : FileSystem) : Prop where
  collect : ∃ set n, dir.collect fs = .ok (set, n) ∧ dir'.collect fs' = .ok (set, n)
  artifact : ∀ (charset : Charset) (output output' : Path),
    SameArtifact output output' (merge (some dir.path) (some output) charset fs)
      (merge (some dir'.path) (some output') charset fs')

/-- The same series of lines in two directories without files. -/
theorem mergesAlike_of_keepAll? {done done' : FileSystem} (hpath : dir.path.text ≠ "")
    (hempty : dir.HasNoFile fs) (hready : dir.IsReady fs ∨ lines ≠ [])
    (h : dir.keepAll? fs lines = some done) (hdir' : fs'.isDirectory dir'.path = true)
    (hempty' : dir'.HasNoFile fs') (h' : dir'.keepAll? fs' lines = some done') :
    dir.MergesAlike dir' done done' := by
  obtain ⟨hpath', hready', -⟩ := isReady_of_isDirectory hdir'
  have hmem := mem_readable_of_keepAll? hpath hempty hready h
  have hmem' := mem_readable_of_keepAll? hpath' hempty' (.inl hready') h'
  have htexts : AreTexts (dir.readable done) := by
    rintro ⟨name, content⟩ hfile
    obtain ⟨line, -, rfl⟩ := (hmem name content).1 hfile
    rw [ofUtf8Bytes?_utf8Bytes]
    rfl
  obtain ⟨set, n, hcollect, hcollect'⟩ := exists_collect_eq
    ((isReady_of_keepAll? hready h).isDirectory hpath)
    ((isReady_of_keepAll? (.inl hready') h').isDirectory hpath') htexts
    fun ⟨name, content⟩ => (hmem name content).trans (hmem' name content).symm
  exact ⟨⟨set, n, hcollect, hcollect'⟩, sameArtifact_of_collect hcollect hcollect'⟩

/-! ### Clearing -/

/-- What clearing a fragment directory does, and what it is good for. -/
structure Clears (dir : FragmentDirectory) (fs : FileSystem) : Prop where
  /-- A directory that does not exist has nothing to be removed. -/
  missing : fs.locate? dir.path = none → dir.clear fs = (.ok 0, fs)
  /-- The files of a directory are the files directly inside, each of them once. -/
  lists : fs.isDirectory dir.path = true → (dir.files fs).Nodup ∧ ∀ name content,
    (name, content) ∈ dir.files fs ↔ fs.entry? (dir.home fs ++ [name]) = some (.file content)
  /-- They are counted and removed, and nothing else changes. -/
  removes : fs.isDirectory dir.path = true → dir.ReachesAll fs →
    (dir.clear fs).1 = .ok (dir.files fs).length ∧ dir.Empties fs (dir.clear fs).2
  /-- As many files are removed as would be collected. -/
  counts : ∀ set n, dir.collect fs = .ok (set, n) → (dir.clear fs).1 = .ok n
  /-- Then there is nothing left to collect. -/
  collects : fs.isDirectory dir.path = true → dir.collect (dir.clear fs).2 = .ok (.empty, 0)
  /-- Units that accept the same lines afterwards and in a directory without files, in whatever
  order they take turns, come to the same artifact. -/
  rebuilds : ∀ {ι : Type} [DecidableEq ι] {calls : List (ι × Line)} {dir' : FragmentDirectory}
    {files : FileSystem} {u u' : Units ι}, dir.path.text ≠ "" → dir.ReachesAll fs →
    (fs.isDirectory dir.path = true ∨ (dir.HasNoFile fs ∧ calls ≠ [])) →
    files.isDirectory dir'.path = true → dir'.files files = [] →
    (Units.start ι dir (dir.clear fs).2).acceptAll calls = some u →
    (Units.start ι dir' files).acceptAll calls = some u' →
    dir.MergesAlike dir' u.files u'.files

theorem hasNoFile_of_files_eq_nil (hdir : fs.isDirectory dir.path = true)
    (h : dir.files fs = []) : dir.HasNoFile fs := by
  obtain ⟨hpath, hready, -⟩ := isReady_of_isDirectory hdir
  intro name content hfile
  rw [← hready.mem_files_iff hpath, h] at hfile
  cases hfile

theorem clears (dir : FragmentDirectory) (fs : FileSystem) : dir.Clears fs where
  missing := clear_of_missing
  lists hdir := by
    obtain ⟨hpath, hready, -⟩ := isReady_of_isDirectory hdir
    exact ⟨dir.nodup_files fs, fun _ _ => hready.mem_files_iff hpath⟩
  removes := empties_clear
  counts _ _ := clear_of_collect
  collects := collect_clear
  rebuilds {ι _ calls dir' files u u'} hpath hreach hplace hdir' hempty' h h' := by
    have hkeep := Units.keepAll?_of_acceptAll (fun _ => rfl) h
    have hkeep' := Units.keepAll?_of_acceptAll (fun _ => rfl) h'
    have hcleared : dir.HasNoFile (dir.clear fs).2 ∧
        (dir.IsReady (dir.clear fs).2 ∨ calls ≠ []) := by
      by_cases hdir : fs.isDirectory dir.path = true
      · exact ⟨(empties_clear hdir hreach).2.hasNoFile, .inl (isReady_clear hdir)⟩
      · obtain ⟨hempty, hne⟩ := hplace.resolve_left hdir
        rw [files_clear_of_not_isDirectory hdir]
        exact ⟨hempty, .inr hne⟩
    exact mergesAlike_of_keepAll? hpath hcleared.1
      (hcleared.2.imp_right Units.toKeepAll_start_ne_nil) hkeep hdir'
      (hasNoFile_of_files_eq_nil hdir' hempty') hkeep'

/-- Two units are built again on an old fragment, beside a directory with a file of its own. -/
theorem clears_of_old_fragments :
    let dir : FragmentDirectory := ⟨⟨"f"⟩⟩
    let files : FileSystem := ((((FileSystem.inDirectory []).put ["f"] .directory).put
      ["f", "old"] (.file [110])).put ["f", "sub"] .directory).put ["f", "sub", "old"] (.file [110])
    let calls : List (Bool × Line) :=
      [(false, .member { owner := "a", name := "m" } .log), (true, .quietScope "p")]
    let empty : FileSystem := (FileSystem.inDirectory []).put ["e"] .directory
    (dir.clear files).1 = .ok 1 ∧ (dir.clear files).2.read? ⟨"f/sub/old"⟩ = some [110] ∧
      ∃ u u', (Units.start Bool dir (dir.clear files).2).acceptAll calls = some u ∧
        (Units.start Bool ⟨⟨"e"⟩⟩ empty).acceptAll calls = some u' ∧
        dir.MergesAlike ⟨⟨"e"⟩⟩ u.files u'.files := by
  intro dir files calls empty
  have hclears := clears dir files
  have hdir : files.isDirectory dir.path = true := by decide +kernel
  have hreach : dir.ReachesAll files := by decide +kernel
  have hcount : (dir.files files).length = 1 := by decide +kernel
  have hremoved := (hclears.removes hdir hreach).1
  rw [hcount] at hremoved
  have hbuilt : ((Units.start Bool dir (dir.clear files).2).acceptAll calls).isSome = true := by
    decide +kernel
  have hbuilt' : ((Units.start Bool ⟨⟨"e"⟩⟩ empty).acceptAll calls).isSome = true := by
    decide +kernel
  obtain ⟨u, hu⟩ := Option.isSome_iff_exists.1 hbuilt
  obtain ⟨u', hu'⟩ := Option.isSome_iff_exists.1 hbuilt'
  exact ⟨hremoved, by decide +kernel, u, u', hu, hu', hclears.rebuilds (by decide) hreach
    (.inl hdir) (by decide +kernel) (by decide +kernel) hu hu'⟩

/-- What a build after a clear leaves to be merged need not be what it leaves in an empty directory,
if there is no directory when it is cleared: when nothing is accepted, nothing makes the directory;
an empty path leads nowhere, although lines are kept; and when the directories above it are made, a
path may come to lead to a directory with old fragments. -/
theorem artifact_ne_of_missing :
    let fresh := FileSystem.inDirectory []
    let empty := fresh.put ["e"] .directory
    let old := (fresh.put ["d"] .directory).put ["d", "old"] (.file (utf8Bytes "log a::m ()V"))
    let line : Line := .quietScope "p"
    let artifact? (dir : FragmentDirectory) (fs : FileSystem) : Option Bytes :=
      (merge (some dir.path) (some ⟨"o"⟩) .utf8 fs).2.read? ⟨"o"⟩
    let tasks : List (FragmentDirectory × FileSystem × List (Unit × Line)) :=
      [(⟨⟨"f"⟩⟩, fresh, []), (⟨⟨""⟩⟩, fresh, [((), line)]), (⟨⟨"x/../d"⟩⟩, old, [((), line)])]
    ∀ task ∈ tasks, let (dir, fs, calls) := task
      fs.locate? dir.path = none ∧ dir.clear fs = (.ok 0, fs) ∧
      ∃ u u', (Units.start Unit dir fs).acceptAll calls = some u ∧
        (Units.start Unit ⟨⟨"e"⟩⟩ empty).acceptAll calls = some u' ∧
        artifact? dir u.files ≠ artifact? ⟨⟨"e"⟩⟩ u'.files := by
  intro fresh empty old line artifact? tasks
  have hdiffer {dir : FragmentDirectory} {fs : FileSystem} {calls : List (Unit × Line)}
      {built built' : Option Bytes} (hne : built ≠ built')
      (h : ((Units.start Unit dir fs).acceptAll calls).map (fun u => artifact? dir u.files) =
        some built)
      (h' : ((Units.start Unit ⟨⟨"e"⟩⟩ empty).acceptAll calls).map
        (fun u => artifact? ⟨⟨"e"⟩⟩ u.files) = some built') :
      ∃ u u', (Units.start Unit dir fs).acceptAll calls = some u ∧
        (Units.start Unit ⟨⟨"e"⟩⟩ empty).acceptAll calls = some u' ∧
        artifact? dir u.files ≠ artifact? ⟨⟨"e"⟩⟩ u'.files := by
    obtain ⟨u, hu, rfl⟩ := Option.map_eq_some_iff.1 h
    obtain ⟨u', hu', rfl⟩ := Option.map_eq_some_iff.1 h'
    exact ⟨u, u', hu, hu', hne⟩
  have hnothing : ((Units.start Unit ⟨⟨"e"⟩⟩ empty).acceptAll []).map
      (fun u => artifact? ⟨⟨"e"⟩⟩ u.files) = some (some []) := by decide +kernel
  have hline : ((Units.start Unit ⟨⟨"e"⟩⟩ empty).acceptAll [((), line)]).map
      (fun u => artifact? ⟨⟨"e"⟩⟩ u.files) = some (some (utf8Bytes "quiet\n")) := by decide +kernel
  have hunmade : ((Units.start Unit ⟨⟨"f"⟩⟩ fresh).acceptAll []).map
      (fun u => artifact? ⟨⟨"f"⟩⟩ u.files) = some none := by decide +kernel
  have hnowhere : ((Units.start Unit ⟨⟨""⟩⟩ fresh).acceptAll [((), line)]).map
      (fun u => artifact? ⟨⟨""⟩⟩ u.files) = some none := by decide +kernel
  have hold : ((Units.start Unit ⟨⟨"x/../d"⟩⟩ old).acceptAll [((), line)]).map
      (fun u => artifact? ⟨⟨"x/../d"⟩⟩ u.files) =
        some (some (utf8Bytes "quiet\nlog a::m ()V\n")) := by decide +kernel
  refine List.forall_mem_cons.2 ⟨?_, List.forall_mem_cons.2 ⟨?_, List.forall_mem_singleton.2 ?_⟩⟩
  · exact ⟨by decide, by decide +kernel, hdiffer (by decide) hunmade hnothing⟩
  · exact ⟨by decide, by decide +kernel, hdiffer (by decide +kernel) hnowhere hline⟩
  · exact ⟨by decide +kernel, by decide +kernel, hdiffer (by decide +kernel) hold hline⟩

end FragmentDirectory

end CompilerHints
