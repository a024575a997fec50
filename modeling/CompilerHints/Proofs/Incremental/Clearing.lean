import CompilerHints.Proofs.FragmentDirectory

/-!
# Clearing a fragment directory

Clearing removes the files directly inside a directory that a path reaches, which are those that
would be collected, and nothing else. The directory stays, and then there is nothing to collect.

* `FileSystem.entry?_removeFiles`: what removing files does.
* `FileSystem.walk?_of_directories`: steps to a directory need no files.
* `FragmentDirectory.clear_of_isDirectory`: what clearing does, and how many files it removes.
* `FragmentDirectory.Empties`, `FragmentDirectory.empties_clear`: what becomes of all locations.
* `FragmentDirectory.collect_clear`, `FragmentDirectory.clear_of_collect`: collecting afterwards
  and before.
-/

namespace CompilerHints

open Text

namespace FileSystem

variable {fs fs' : FileSystem} {loc other : Location} {chosen : String → Bool}

/-! ### Removing files -/

/-- Files directly inside a location that are chosen are removed, and nothing else is. -/
theorem entry?_removeFiles (fs : FileSystem) (loc : Location) (chosen : String → Bool)
    (other : Location) :
    entry? (fs.removeFiles loc chosen) other = (fs.entry? other).filter fun entry =>
      !(entry.isFile && other.getLast?.any chosen && other.dropLast == loc) := by
  unfold entry? removeFiles
  split
  · rfl
  · exact Std.ExtTreeMap.getElem?_filter'

theorem entry?_removeFiles_child (name : String) :
    entry? (fs.removeFiles loc chosen) (loc ++ [name]) =
      (fs.entry? (loc ++ [name])).filter fun entry => !(entry.isFile && chosen name) := by
  rw [entry?_removeFiles]
  simp

theorem entry?_removeFiles_of_not_child
    (h : ∀ name content, other = loc ++ [name] → fs.entry? other ≠ some (.file content)) :
    entry? (fs.removeFiles loc chosen) other = fs.entry? other := by
  rw [entry?_removeFiles]
  rcases hentry : fs.entry? other with _ | _ | content
  · rfl
  · rfl
  · rw [Option.filter_some, if_pos]
    cases hlast : other.getLast? with
    | none => rfl
    | some name =>
      obtain ⟨above, rfl⟩ := List.getLast?_eq_some_iff.1 hlast
      have habove : above ≠ loc := fun e => h name content (e ▸ rfl) hentry
      simp [habove]

theorem isDirectoryAt_removeFiles :
    (fs.removeFiles loc chosen).isDirectoryAt other = fs.isDirectoryAt other := by
  rw [isDirectoryAt, isDirectoryAt, entry?_removeFiles]
  rcases fs.entry? other with _ | _ | content
  · rfl
  · rfl
  · rw [Option.filter_some]
    split <;> rfl

/-! ### Steps to a directory -/

/-- What a step other than to the root starts from is a directory. -/
theorem isDirectoryAt_of_follow? {step : Component} (hroot : step ≠ .root)
    (h : fs.follow? loc step = some other) : fs.isDirectoryAt loc = true := by
  cases step with
  | root => exact absurd rfl hroot
  | current => exact (Option.ite_none_right_eq_some.1 h).1
  | parent => exact (Option.ite_none_right_eq_some.1 h).1
  | child name => exact (Bool.and_eq_true_iff.1 (Option.ite_none_right_eq_some.1 h).1).1

/-- A step from a directory to a directory can be taken as long as directories stay. -/
theorem follow?_of_directories {step : Component}
    (hdirs : ∀ loc, fs.isDirectoryAt loc = true → fs'.isDirectoryAt loc = true)
    (h : fs.follow? loc step = some other) (hdir : fs.isDirectoryAt other = true) :
    fs'.follow? loc step = some other := by
  cases step with
  | root => exact h
  | current =>
    obtain ⟨hloc, e⟩ := Option.ite_none_right_eq_some.1 h
    exact Option.ite_none_right_eq_some.2 ⟨hdirs _ hloc, e⟩
  | parent =>
    obtain ⟨hloc, e⟩ := Option.ite_none_right_eq_some.1 h
    exact Option.ite_none_right_eq_some.2 ⟨hdirs _ hloc, e⟩
  | child name =>
    obtain ⟨hloc, e⟩ := Option.ite_none_right_eq_some.1 h
    obtain rfl := Option.some.inj e
    have hentry := isDirectoryAt_iff.1 (hdirs _ hdir)
    refine Option.ite_none_right_eq_some.2 ⟨Bool.and_eq_true_iff.2 ⟨?_, ?_⟩, rfl⟩
    · exact hdirs _ (Bool.and_eq_true_iff.1 hloc).1
    · rw [hentry]
      rfl

/-- Steps to a directory can be followed as long as directories stay: there are no files on the
way. -/
theorem walk?_of_directories {steps : List Component} (hroot : .root ∉ steps.tail)
    (hdirs : ∀ loc, fs.isDirectoryAt loc = true → fs'.isDirectoryAt loc = true)
    (hwalk : fs.walk? loc steps = some other) (hdir : fs.isDirectoryAt other = true) :
    fs'.walk? loc steps = some other := by
  induction steps generalizing loc with
  | nil => exact hwalk
  | cons step rest ih =>
    rw [walk?_cons, Option.bind_eq_some_iff] at hwalk ⊢
    obtain ⟨next, hnext, hwalk⟩ := hwalk
    have hnextDir : fs.isDirectoryAt next = true := by
      cases rest with
      | nil =>
        cases hwalk
        exact hdir
      | cons step' rest =>
        rw [walk?_cons, Option.bind_eq_some_iff] at hwalk
        obtain ⟨_, hfollow, -⟩ := hwalk
        exact isDirectoryAt_of_follow? (fun e => hroot (e ▸ List.mem_cons_self)) hfollow
    exact ⟨next, follow?_of_directories hdirs hnext hnextDir,
      ih (fun h => hroot (List.mem_of_mem_tail h)) hwalk⟩

/-- No name comes twice directly inside a location. -/
theorem pairwise_children (fs : FileSystem) (loc : Location) :
    (fs.children loc).Pairwise fun a b => a.1 ≠ b.1 := by
  rw [children, List.pairwise_filterMap]
  refine Std.ExtTreeMap.distinct_keys_toList.imp fun {a b} hne c hc d hd hname => hne ?_
  rw [Std.LawfulEqCmp.compare_eq_iff_eq]
  dsimp only at hc hd
  split at hc
  · next last hlast =>
    split at hd
    · next last' hlast' =>
      -- a location is made of the one above it and of its last name
      obtain ⟨habove, hc⟩ := Option.ite_none_right_eq_some.1 hc
      obtain ⟨habove', hd⟩ := Option.ite_none_right_eq_some.1 hd
      obtain rfl := Option.some.inj hc
      obtain rfl := Option.some.inj hd
      rw [← List.dropLast_append_getLast? last hlast, ← List.dropLast_append_getLast? last' hlast',
        habove, habove', show last = last' from hname]
    · cases hd
  · cases hc

end FileSystem

namespace FragmentDirectory

variable {dir : FragmentDirectory} {fs fs' : FileSystem}

/-- What a path that leads to a directory is to a fragment directory. -/
theorem isReady_of_isDirectory (h : fs.isDirectory dir.path = true) :
    dir.path.text ≠ "" ∧ dir.IsReady fs ∧ fs.locate? dir.path = some (dir.home fs) := by
  obtain ⟨loc, hlocate, hdir⟩ := FileSystem.isDirectory_iff.1 h
  obtain ⟨hpath, husable, hwalk, -⟩ := FileSystem.locate?_eq_some_iff.1 hlocate
  obtain rfl : dir.home fs = loc := FileSystem.place_of_walk? hwalk
  exact ⟨hpath, ⟨husable, hwalk, hdir⟩, hlocate⟩

/-- The files that a path reaches are removed, as many as would be collected. -/
theorem clear_of_isDirectory (h : fs.isDirectory dir.path = true) :
    dir.clear fs =
      (.ok (dir.readable fs).length, fs.removeFiles (dir.home fs) dir.path.reaches) := by
  obtain ⟨-, hready, hlocate⟩ := isReady_of_isDirectory h
  have hlist : fs.list? dir.path = some (fs.children (dir.home fs)) :=
    FileSystem.list?_eq_some_iff.2 ⟨_, hlocate, hready.directory, rfl⟩
  have hcount (entries : List (String × Entry)) :
      (entries.countP fun child => child.2.isFile && dir.path.reaches child.1) =
        (dir.readableAmong entries).length := by
    induction entries with
    | nil => rfl
    | cons child rest ih =>
      rw [List.countP_cons, ih]
      obtain ⟨name, _ | content⟩ := child
      · rfl
      · by_cases hreach : dir.path.reaches name = true
        · rw [readableAmong_cons_of_reaches hreach, hreach]
          rfl
        · rw [readableAmong_cons_of_not_reaches hreach]
          simp [hreach]
  rw [clear, hlocate]
  dsimp only
  rw [if_pos hready.directory, hcount, readable, hlist, Option.getD_some]

/-- No file is listed twice. -/
theorem nodup_files (dir : FragmentDirectory) (fs : FileSystem) : (dir.files fs).Nodup := by
  have hpairwise : ((fs.list? dir.path).getD []).Pairwise fun a b => a.1 ≠ b.1 := by
    cases hlist : fs.list? dir.path with
    | none => exact List.Pairwise.nil
    | some entries =>
      obtain ⟨loc, -, -, rfl⟩ := FileSystem.list?_eq_some_iff.1 hlist
      exact fs.pairwise_children loc
  refine List.pairwise_filterMap.2 (hpairwise.imp ?_)
  rintro ⟨name, entry⟩ ⟨name', entry'⟩ hne file hfile file' hfile' rfl
  obtain ⟨name'', content⟩ := file
  rw [file?_eq_some_iff] at hfile hfile'
  exact hne ((congrArg Prod.fst hfile).trans (congrArg Prod.fst hfile').symm)

theorem nodup_readable (dir : FragmentDirectory) (fs : FileSystem) : (dir.readable fs).Nodup :=
  (dir.nodup_files fs).filter _

/-- A directory that does not exist counts as clean. -/
theorem clear_of_missing (h : fs.locate? dir.path = none) : dir.clear fs = (.ok 0, fs) := by
  rw [clear, h]

/-- Where there is no directory, nothing is removed. -/
theorem files_clear_of_not_isDirectory (h : ¬ fs.isDirectory dir.path = true) :
    (dir.clear fs).2 = fs := by
  unfold clear
  split
  · rfl
  · next loc hlocate =>
    rw [if_neg fun hdir => h (FileSystem.isDirectory_iff.2 ⟨loc, hlocate, hdir⟩)]

/-! ### Afterwards -/

/-- The files directly inside a directory are removed, and everything else is what it was. -/
structure Empties (dir : FragmentDirectory) (fs fs' : FileSystem) : Prop where
  workingDirectory : fs'.workingDirectory = fs.workingDirectory
  removed : ∀ name content, fs.entry? (dir.home fs ++ [name]) = some (.file content) →
    fs'.entry? (dir.home fs ++ [name]) = none
  unchanged : ∀ loc,
    (∀ name content, loc = dir.home fs ++ [name] → fs.entry? loc ≠ some (.file content)) →
    fs'.entry? loc = fs.entry? loc

theorem isReady_removeFiles (hready : dir.IsReady fs) (chosen : String → Bool) :
    dir.IsReady (fs.removeFiles (dir.home fs) chosen) where
  usable := hready.usable
  walk := FileSystem.walk?_of_directories (Path.root_not_mem_tail_steps dir.path)
    (fun _ h => FileSystem.isDirectoryAt_removeFiles.trans h) hready.walk hready.directory
  directory := FileSystem.isDirectoryAt_removeFiles.trans hready.directory

theorem isReady_clear (h : fs.isDirectory dir.path = true) : dir.IsReady (dir.clear fs).2 := by
  rw [clear_of_isDirectory h]
  exact isReady_removeFiles (isReady_of_isDirectory h).2.1 _

theorem home_clear (h : fs.isDirectory dir.path = true) :
    dir.home (dir.clear fs).2 = dir.home fs := by
  rw [clear_of_isDirectory h]
  rfl

theorem isDirectory_clear (h : fs.isDirectory dir.path = true) :
    (dir.clear fs).2.isDirectory dir.path = true :=
  (isReady_clear h).isDirectory (isReady_of_isDirectory h).1

/-- What is left directly inside is no file, or one that no path reaches. -/
theorem reaches_eq_false_of_clear (h : fs.isDirectory dir.path = true) {name : String}
    {content : Bytes}
    (hfile : FileSystem.entry? (dir.clear fs).2 (dir.home fs ++ [name]) = some (.file content)) :
    dir.path.reaches name = false := by
  rw [clear_of_isDirectory h, FileSystem.entry?_removeFiles_child, Option.filter_eq_some_iff]
    at hfile
  simpa [Entry.isFile] using hfile.2

/-- A path reaches all files directly inside a directory. -/
def ReachesAll (dir : FragmentDirectory) (fs : FileSystem) : Prop :=
  ∀ file ∈ dir.files fs, dir.path.reaches file.1 = true

instance (dir : FragmentDirectory) (fs : FileSystem) : Decidable (dir.ReachesAll fs) :=
  inferInstanceAs (Decidable (∀ file ∈ dir.files fs, dir.path.reaches file.1 = true))

/-- If a path reaches all files, all of them are removed. -/
theorem empties_clear (h : fs.isDirectory dir.path = true) (hreach : dir.ReachesAll fs) :
    (dir.clear fs).1 = .ok (dir.files fs).length ∧ dir.Empties fs (dir.clear fs).2 := by
  obtain ⟨hpath, hready, -⟩ := isReady_of_isDirectory h
  rw [clear_of_isDirectory h, readable_eq_filter, List.filter_eq_self.2 hreach]
  refine ⟨rfl, rfl, fun name content hfile => ?_, fun loc hother => ?_⟩
  · have hname := hreach _ ((hready.mem_files_iff hpath).2 hfile)
    rw [FileSystem.entry?_removeFiles_child, hfile, Option.filter_some, hname]
    rfl
  · exact FileSystem.entry?_removeFiles_of_not_child hother

theorem Empties.hasNoFile (h : dir.Empties fs fs') : dir.HasNoFile fs' := by
  have hhome : dir.home fs' = dir.home fs := by rw [home, home, h.workingDirectory]
  intro name content hfile
  rw [hhome] at hfile
  by_cases hold : ∃ old, fs.entry? (dir.home fs ++ [name]) = some (.file old)
  · obtain ⟨old, hold⟩ := hold
    rw [h.removed name old hold] at hfile
    cases hfile
  · rw [h.unchanged] at hfile
    · exact hold ⟨content, hfile⟩
    · exact fun other old hother hentry => hold ⟨old, hentry⟩

/-- Nothing is collected from a directory that was cleared. -/
theorem collect_clear (h : fs.isDirectory dir.path = true) :
    dir.collect (dir.clear fs).2 = .ok (.empty, 0) := by
  obtain ⟨hpath, -, -⟩ := isReady_of_isDirectory h
  have hnone : dir.readable (dir.clear fs).2 = [] := by
    refine List.eq_nil_iff_forall_not_mem.2 fun ⟨name, content⟩ hmem => ?_
    obtain ⟨hfile, hreach⟩ := mem_readable_iff.1 hmem
    rw [(isReady_clear h).mem_files_iff hpath, home_clear h] at hfile
    rw [reaches_eq_false_of_clear h hfile] at hreach
    cases hreach
  have htexts : AreTexts (dir.readable (dir.clear fs).2) := by
    rw [hnone]
    exact List.forall_mem_nil _
  have hcollect := collectIn_eq_ok (isDirectory_clear h) htexts .asListed
  rwa [hnone] at hcollect

/-- As many files are removed as would be collected. -/
theorem clear_of_collect {set : CommandSet} {n : Nat} (h : dir.collect fs = .ok (set, n)) :
    (dir.clear fs).1 = .ok n := by
  have hdir : fs.isDirectory dir.path = true := by
    unfold collect at h
    split at h
    · cases h
    · next hlist => exact FileSystem.isDirectory_iff_exists_list?.2 ⟨_, hlist⟩
  rw [clear_of_isDirectory hdir]
  by_cases htexts : AreTexts (dir.readable fs)
  · rw [← collectIn_asListed, collectIn_eq_ok hdir htexts] at h
    cases h
    rfl
  · obtain ⟨_, -, -, hfails⟩ := collectIn_eq_error hdir htexts .asListed
    rw [collectIn_asListed, h] at hfails
    cases hfails

end FragmentDirectory

end CompilerHints
