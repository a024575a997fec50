import CompilerHints.Proofs.Artifact

/-!
# Writing where it is possible

Whether a file can be written to a path depends on the path and the file system, not on the bytes.
Where it can be, the file is the only one that changes, and writing the same again changes nothing
at all.

* `FileSystem.canWrite`, `isOk_writeWithParents`: whether a file can be written to a path.
* `FileSystem.createDirectories_again`: creating directories again, also after a failure.
* `FileSystem.Overwrites`: what writing a file does.
* `overwrites_of_canWrite`: it does so wherever it is possible.
-/

namespace CompilerHints

open Text

namespace FileSystem

variable {fs mid fs' : FileSystem} {p : Path} {loc : Location}

/-- Whether a file can be written to a path when the directories above it are created first. -/
def canWrite (fs : FileSystem) (p : Path) : Bool :=
  let made := fs.createDirectories (p.parent?.getD ⟨""⟩)
  made.2 && (made.1.target? p).isSome

/-! ### Doing the same again -/

/-- What a location holds can be put there again. -/
theorem put_self {entry : Entry} (hroot : loc ≠ []) (h : fs.entry? loc = some entry) :
    fs.put loc entry = fs := by
  unfold entry? at h
  rw [if_neg hroot] at h
  obtain ⟨entries, workingDirectory⟩ := fs
  have hsame : entries.insert loc entry = entries := by
    refine Std.ExtTreeMap.ext_getElem? fun other => ?_
    rw [Std.ExtTreeMap.getElem?_insert]
    split
    · next e => rw [← Std.LawfulEqCmp.compare_eq_iff_eq.1 e, ← h]
    · rfl
  rw [put, hsame]

/-- Where a name is a directory, the steps go on below it. -/
theorem makeAll_child_of_isDirectoryAt {name : String}
    (hdir : fs.isDirectoryAt (loc ++ [name]) = true) (rest : List Component) :
    fs.makeAll loc (.child name :: rest) = fs.makeAll (loc ++ [name]) rest := by
  rw [makeAll, isDirectoryAt_iff.1 hdir]

/-- A step down to a name ends here, and nothing changes, or the name is a directory from here
on. -/
theorem makeAll_child_cases {name : String} {rest : List Component} {made : Bool}
    (h : fs.makeAll loc (.child name :: rest) = (mid, made)) :
    (mid.isDirectoryAt (loc ++ [name]) = true ∧
      ∃ start : FileSystem, start.makeAll (loc ++ [name]) rest = (mid, made)) ∨
      fs = mid ∧ made = false := by
  have hlater {start : FileSystem} (hdir : start.isDirectoryAt (loc ++ [name]) = true)
      (h : start.makeAll (loc ++ [name]) rest = (mid, made)) :
      mid.isDirectoryAt (loc ++ [name]) = true := by
    have hadds := makeAll_addsDirectories start (loc ++ [name]) rest
    rw [h] at hadds
    exact hadds.grows.directory _ hdir
  rw [makeAll] at h
  split at h
  · next hdir =>
    rw [← isDirectoryAt_iff] at hdir
    exact .inl ⟨hlater hdir h, fs, h⟩
  · exact .inr ((Prod.mk.inj h).imp_right Eq.symm)
  · split at h
    · have hdir : (fs.put (loc ++ [name]) .directory).isDirectoryAt (loc ++ [name]) = true := by
        rw [isDirectoryAt_iff, entry?_put (List.concat_ne_nil _ _), if_pos rfl]
      exact .inl ⟨hlater hdir h, _, h⟩
    · exact .inr ((Prod.mk.inj h).imp_right Eq.symm)

/-- Directories that were made once need not be made again. -/
theorem Grows.makeAll {steps : List Component} (hmade : fs.makeAll loc steps = (mid, true))
    (h : mid.Grows fs') : fs'.makeAll loc steps = (fs', true) := by
  induction steps generalizing fs loc with
  | nil => rfl
  | cons step rest ih =>
    cases step with
    | root => exact ih (show fs.makeAll [] rest = (mid, true) from hmade)
    | current => exact ih (show fs.makeAll loc rest = (mid, true) from hmade)
    | parent => exact ih (show fs.makeAll loc.dropLast rest = (mid, true) from hmade)
    | child name =>
      rcases makeAll_child_cases hmade with ⟨hdir, start, hrest⟩ | ⟨-, hfailed⟩
      · rw [makeAll_child_of_isDirectoryAt (h.directory _ hdir)]
        exact ih hrest
      · cases hfailed

theorem Grows.createDirectories (hmade : fs.createDirectories p = (mid, true))
    (h : mid.Grows fs') : fs'.createDirectories p = (fs', true) := by
  have hadds := fs.createDirectories_addsDirectories p
  rw [hmade] at hadds
  have husable := isUsable_of_createDirectories hmade
  rw [FileSystem.createDirectories, if_pos husable] at hmade ⊢
  rw [(hadds.grows.trans h).workingDirectory]
  exact Grows.makeAll hmade h

/-- Making directories once more changes nothing and ends in the same way: what was made is there,
and what was in the way is still in the way. -/
theorem makeAll_again {steps : List Component} {made : Bool}
    (h : fs.makeAll loc steps = (mid, made)) : mid.makeAll loc steps = (mid, made) := by
  induction steps generalizing fs loc with
  | nil =>
    cases h
    rfl
  | cons step rest ih =>
    cases step with
    | root => exact ih (show fs.makeAll [] rest = (mid, made) from h)
    | current => exact ih (show fs.makeAll loc rest = (mid, made) from h)
    | parent => exact ih (show fs.makeAll loc.dropLast rest = (mid, made) from h)
    | child name =>
      rcases makeAll_child_cases h with ⟨hdir, start, hrest⟩ | ⟨rfl, -⟩
      · rw [makeAll_child_of_isDirectoryAt hdir]
        exact ih hrest
      · exact h

theorem createDirectories_again {made : Bool} (h : fs.createDirectories p = (mid, made)) :
    mid.createDirectories p = (mid, made) := by
  have hadds := fs.createDirectories_addsDirectories p
  rw [h] at hadds
  unfold createDirectories at h ⊢
  split at h
  · next husable =>
    rw [if_pos husable, hadds.workingDirectory]
    exact makeAll_again h
  · next husable =>
    cases h
    rw [if_neg husable]

/-- A path names the same file for writing, as long as no directory is in its place. -/
theorem Grows.target? (h : fs.Grows fs') (htarget : fs.target? p = some loc)
    (hfree : fs'.isDirectoryAt loc = false) : fs'.target? p = some loc := by
  obtain ⟨husable, hslash, above, name, dir, hsteps, hwalk, hdir, hname, -, rfl⟩ :=
    target?_eq_some_iff.1 htarget
  rw [target?_eq_some_iff, h.workingDirectory]
  exact ⟨husable, hslash, above, name, dir, hsteps, h.walk? hwalk, h.directory _ hdir, hname,
    hfree, rfl⟩

theorem isDirectoryAt_of_target? (h : fs.target? p = some loc) : fs.isDirectoryAt loc = false := by
  obtain ⟨-, -, _, _, _, -, -, -, -, hfree, rfl⟩ := target?_eq_some_iff.1 h
  exact hfree

/-! ### What writing does -/

/-- A file was written to a path: it is read back, the other files are what they were, and writing
it once more changes nothing. -/
structure Overwrites (p : Path) (bytes : Bytes) (fs fs' : FileSystem) : Prop where
  grows : fs.Grows fs'
  read : fs'.read? p = some bytes
  file : ∃ loc, ∀ other content, fs'.entry? other = some (.file content) ↔
    if other = loc then content = bytes else fs.entry? other = some (.file content)
  again : writeWithParents p bytes fs' = (.ok bytes.length, fs')

/-- Writing puts a file into a directory that was made before, if need be. -/
theorem overwrites_put (hmade : fs.createDirectories (p.parent?.getD ⟨""⟩) = (mid, true))
    (htarget : mid.target? p = some loc) (bytes : Bytes) :
    Overwrites p bytes fs (mid.put loc (.file bytes)) := by
  have hadds := fs.createDirectories_addsDirectories (p.parent?.getD ⟨""⟩)
  rw [hmade] at hadds
  have hroot := ne_nil_of_target? htarget
  have hputs := grows_put_file hroot (isDirectoryAt_of_target? htarget) bytes
  have hentry : entry? (mid.put loc (.file bytes)) loc = some (.file bytes) := by
    rw [entry?_put hroot, if_pos rfl]
  refine ⟨hadds.grows.trans hputs, read?_of_write? (write?_eq_some_iff.2 ⟨loc, htarget, rfl⟩),
    ⟨loc, fun other content => ?_⟩, ?_⟩
  · rw [entry?_put hroot]
    split
    · rw [Option.some.injEq, Entry.file.injEq, eq_comm]
    · exact hadds.entry?_eq_file_iff
  · have hfree : (mid.put loc (.file bytes)).isDirectoryAt loc = false := by
      rw [isDirectoryAt, hentry]
      rfl
    have hagain : (mid.put loc (.file bytes)).write? p bytes = some (mid.put loc (.file bytes)) :=
      write?_eq_some_iff.2 ⟨loc, hputs.target? htarget hfree, (put_self hroot hentry).symm⟩
    rw [writeWithParents, Grows.createDirectories hmade hputs]
    dsimp only
    rw [hagain]

end FileSystem

/-- Writing succeeds where it is possible, whatever the bytes. -/
theorem isOk_writeWithParents (p : Path) (bytes : Bytes) (fs : FileSystem) :
    (writeWithParents p bytes fs).1.isOk = fs.canWrite p := by
  unfold writeWithParents FileSystem.canWrite FileSystem.write?
  dsimp only
  split
  · next hmade => rw [hmade]; rfl
  · next mid hmade =>
    rw [hmade]
    cases mid.target? p <;> rfl

theorem overwrites_of_canWrite {p : Path} {fs : FileSystem} (h : fs.canWrite p = true)
    (bytes : Bytes) :
    ∃ fs', writeWithParents p bytes fs = (.ok bytes.length, fs') ∧ fs.Overwrites p bytes fs' := by
  unfold FileSystem.canWrite at h
  unfold writeWithParents FileSystem.write?
  dsimp only
  cases hmade : fs.createDirectories (p.parent?.getD ⟨""⟩) with
  | mk mid made =>
    rw [hmade, Bool.and_eq_true] at h
    obtain ⟨rfl, htarget⟩ := h
    obtain ⟨loc, htarget⟩ := Option.isSome_iff_exists.1 htarget
    refine ⟨_, ?_, FileSystem.overwrites_put hmade htarget bytes⟩
    dsimp only at htarget ⊢
    rw [htarget]
    rfl

end CompilerHints
