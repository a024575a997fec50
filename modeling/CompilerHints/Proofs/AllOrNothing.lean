import CompilerHints.Proofs.Ancestors
import CompilerHints.Proofs.Writing

/-!
# All of an artifact or nothing

A character that the charset lacks is found before anything is touched. What is written otherwise is
the whole artifact, and besides its file only missing directories above it are new. Where the file
system refuses, no file has changed.

* `FileSystem.LeadsThrough`: the places above the last one that a path leads to.
* `FileSystem.MakesAncestors`, `FileSystem.WritesOnly`: what changes without a file, and with one.
* `FileSystem.IsBlocked`: paths to which nothing can be written.
* `exists_unmappable_of_writeArtifact`, `writesOnly_of_writeArtifact`,
  `failures_of_writeArtifact`: what becomes of an artifact.
* `isAllOrNothing_writeArtifact`: it is written completely or not at all.
-/

namespace CompilerHints

open Text

namespace FileSystem

variable {fs mid fs' : FileSystem} {p : Path} {loc : Location} {bytes : Bytes}

/-! ### Places above a path -/

/-- A place that a path leads through before its last step. -/
def LeadsThrough (fs : FileSystem) (p : Path) (loc : Location) : Prop :=
  ∃ way, way ≠ [] ∧ way <+: p.steps ∧ way ≠ p.steps ∧ loc = place fs.workingDirectory way

/-- Nothing changed but that places which a path leads through are directories now, where nothing
was before. -/
structure MakesAncestors (p : Path) (fs fs' : FileSystem) : Prop where
  workingDirectory : fs'.workingDirectory = fs.workingDirectory
  entry : ∀ loc, fs'.entry? loc = fs.entry? loc ∨
    (fs.entry? loc = none ∧ fs'.entry? loc = some .directory ∧ fs.LeadsThrough p loc)

theorem MakesAncestors.addsDirectories (h : MakesAncestors p fs fs') : fs.AddsDirectories fs' where
  workingDirectory := h.workingDirectory
  entry loc := (h.entry loc).imp id fun e => ⟨e.1, e.2.1⟩

/-- The directories above a path are places that it leads through. -/
theorem makesAncestors_createDirectories (p : Path) (fs : FileSystem) :
    MakesAncestors p fs (fs.createDirectories (p.parent?.getD ⟨""⟩)).1 := by
  have hadds := fs.createDirectories_addsDirectories (p.parent?.getD ⟨""⟩)
  refine ⟨hadds.workingDirectory, fun loc => ?_⟩
  rcases hadds.entry loc with hsame | ⟨hbefore, hafter⟩
  · exact .inl hsame
  · refine .inr ⟨hbefore, hafter, ?_⟩
    unfold createDirectories at hafter
    split at hafter
    · have hchanged : entry? (fs.makeAll fs.workingDirectory (p.parent?.getD ⟨""⟩).steps).1 loc ≠
          fs.entry? loc := by
        rw [hafter, hbefore]
        exact Option.some_ne_none _
      obtain ⟨way, hne, hway, hplace⟩ := exists_way_of_makeAll hchanged
      obtain ⟨more, hsteps, hmore⟩ := p.exists_steps_eq_append
      refine ⟨way, hne, hsteps ▸ hway.trans (List.prefix_append _ _), fun hall => ?_, hplace⟩
      -- all steps of the path are more than those above it
      have hlength := hway.length_le
      rw [hall, hsteps, List.length_append] at hlength
      have hnil : more = [] := List.length_eq_zero_iff.1 (by omega)
      rw [hall, hmore hnil] at hne
      exact hne rfl
    · rw [hbefore] at hafter
      cases hafter

/-! ### One file -/

/-- A path leads to a file with the given bytes, which is in the place of no directory, and besides
it nothing changed but that places which the path leads through are directories now, where nothing
was before. -/
structure WritesOnly (p : Path) (bytes : Bytes) (fs fs' : FileSystem) : Prop where
  workingDirectory : fs'.workingDirectory = fs.workingDirectory
  file : ∃ loc, fs'.locate? p = some loc ∧ fs.isDirectoryAt loc = false ∧
    fs'.entry? loc = some (.file bytes) ∧
    ∀ other, other ≠ loc → fs'.entry? other = fs.entry? other ∨
      (fs.entry? other = none ∧ fs'.entry? other = some .directory ∧ fs.LeadsThrough p other)

theorem WritesOnly.grows (h : WritesOnly p bytes fs fs') : fs.Grows fs' := by
  obtain ⟨loc, -, hfree, hfile, hothers⟩ := h.file
  refine ⟨h.workingDirectory, fun other hdir => ?_, fun other hsome => ?_⟩
  · have hother : other ≠ loc := by
      rintro rfl
      rw [hdir] at hfree
      cases hfree
    rw [isDirectoryAt_iff] at hdir ⊢
    rcases hothers other hother with hsame | ⟨-, hafter, -⟩
    · exact hsame.trans hdir
    · exact hafter
  · by_cases hother : other = loc
    · rw [hother, hfile]
      rfl
    · rcases hothers other hother with hsame | ⟨-, hafter, -⟩
      · rwa [hsame]
      · rw [hafter]
        rfl

theorem writesOnly_writeWithParents {n : Nat} (h : (writeWithParents p bytes fs).1 = .ok n) :
    n = bytes.length ∧ WritesOnly p bytes fs (writeWithParents p bytes fs).2 := by
  have hmakes := makesAncestors_createDirectories p fs
  unfold writeWithParents at h ⊢
  dsimp only at h ⊢
  split at h
  · cases h
  · next mid hcreate =>
    rw [hcreate] at hmakes
    split at h
    · next hwrite =>
      cases h
      obtain ⟨loc, htarget, rfl⟩ := write?_eq_some_iff.1 hwrite
      have hroot := ne_nil_of_target? htarget
      refine ⟨rfl, hmakes.workingDirectory, loc, locate?_put_of_target? htarget bytes, ?_, ?_,
        fun other hother => ?_⟩
      · have hfree := isDirectoryAt_of_target? htarget
        rw [Bool.eq_false_iff] at hfree ⊢
        exact fun hdir => hfree (hmakes.addsDirectories.grows.directory loc hdir)
      · rw [entry?_put hroot, if_pos rfl]
      · rw [entry?_put hroot, if_neg hother]
        exact hmakes.entry other
    · cases h

/-- Where nothing is written, the file system refused, and only directories above the path can be
new. -/
theorem makesAncestors_writeWithParents {failure : Failure}
    (h : (writeWithParents p bytes fs).1 = .error failure) :
    ∃ refused, failure = .io refused ∧ MakesAncestors p fs (writeWithParents p bytes fs).2 := by
  have hmakes := makesAncestors_createDirectories p fs
  unfold writeWithParents at h ⊢
  dsimp only at h ⊢
  split at h
  · next hcreate =>
    rw [hcreate] at hmakes
    cases h
    exact ⟨_, rfl, hmakes⟩
  · next hcreate =>
    rw [hcreate] at hmakes
    split at h
    · cases h
    · next hwrite =>
      cases h
      exact ⟨_, rfl, hmakes⟩

/-! ### Blocked paths -/

/-- A file is on the way of a path, or a directory in its place. -/
def IsBlocked (fs : FileSystem) (p : Path) : Prop :=
  fs.isDirectory p = true ∨
    ∃ way loc content, way ≠ [] ∧ way <+: p.steps ∧ way ≠ p.steps ∧
      fs.walk? fs.workingDirectory way = some loc ∧ fs.entry? loc = some (.file content)

/-- A directory is found in the place of a path that could be written to otherwise. -/
theorem target?_eq_none_of_isDirectory (h : fs.isDirectory p = true) : fs.target? p = none := by
  obtain ⟨loc, hlocate, hdir⟩ := isDirectory_iff.1 h
  obtain ⟨-, -, hwalk, -⟩ := locate?_eq_some_iff.1 hlocate
  rw [Option.eq_none_iff_forall_ne_some]
  intro target htarget
  obtain ⟨-, -, above, name, dir, hsteps, habove, -, -, hfree, -⟩ := target?_eq_some_iff.1 htarget
  rw [hsteps] at hwalk
  obtain ⟨dir', habove', -, -, rfl⟩ := walk?_concat_child.1 hwalk
  obtain rfl : dir = dir' := Option.some.inj (habove.symm.trans habove')
  rw [hfree] at hdir
  cases hdir

/-- Nothing is followed from a file, unless to the root. -/
theorem eq_nil_of_walk?_file {content : Bytes} (hfile : fs.entry? loc = some (.file content))
    {steps : List Component} (hroot : .root ∉ steps) {dir : Location}
    (h : fs.walk? loc steps = some dir) : steps = [] := by
  have hdir : fs.isDirectoryAt loc = false := by
    rw [isDirectoryAt, hfile]
    rfl
  cases steps with
  | nil => rfl
  | cons step rest =>
    rw [walk?_cons] at h
    cases step with
    | root => exact absurd List.mem_cons_self hroot
    | _ => simp [follow?, hdir] at h

theorem target?_eq_none_of_file {way : List Component} {content : Bytes} (hne : way ≠ [])
    (hway : way <+: p.steps) (hproper : way ≠ p.steps)
    (hwalk : fs.walk? fs.workingDirectory way = some loc)
    (hfile : fs.entry? loc = some (.file content)) : fs.target? p = none := by
  rw [Option.eq_none_iff_forall_ne_some]
  intro target htarget
  obtain ⟨-, -, above, name, dir, hsteps, habove, hdir, -⟩ := target?_eq_some_iff.1 htarget
  rw [hsteps] at hway hproper
  obtain ⟨rest, hrest⟩ : way <+: above := (List.prefix_concat_iff.1 hway).resolve_left hproper
  rw [← hrest, walk?_append, hwalk, Option.bind_some] at habove
  -- the way has the first step in it, so what follows it does not lead to the root
  have hroot : .root ∉ rest := by
    obtain ⟨first, more, rfl⟩ := List.exists_cons_of_ne_nil hne
    have htail := p.root_not_mem_tail_steps
    rw [hsteps, ← hrest] at htail
    exact fun h => htail (List.mem_append_left _ (List.mem_append_right more h))
  obtain rfl := eq_nil_of_walk?_file hfile hroot habove
  obtain rfl : loc = dir := Option.some.inj habove
  rw [isDirectoryAt_iff, hfile] at hdir
  cases hdir

theorem IsBlocked.canWrite_eq_false (h : fs.IsBlocked p) : fs.canWrite p = false := by
  have hadds := fs.createDirectories_addsDirectories (p.parent?.getD ⟨""⟩)
  have hnone : (fs.createDirectories (p.parent?.getD ⟨""⟩)).1.target? p = none := by
    rcases h with hdir | ⟨way, loc, content, hne, hway, hproper, hwalk, hfile⟩
    · exact target?_eq_none_of_isDirectory (hadds.grows.isDirectory hdir)
    · refine target?_eq_none_of_file hne hway hproper ?_ (hadds.entry?_eq_file_iff.2 hfile)
      rw [hadds.workingDirectory]
      exact hadds.grows.walk? hwalk
  rw [canWrite, hnone]
  exact Bool.and_false _

theorem IsBlocked.exists_io (h : fs.IsBlocked p) (bytes : Bytes) :
    ∃ refused, (writeWithParents p bytes fs).1 = .error (.io refused) := by
  have hok := isOk_writeWithParents p bytes fs
  rw [h.canWrite_eq_false] at hok
  cases hanswer : (writeWithParents p bytes fs).1 with
  | ok n =>
    rw [hanswer] at hok
    cases hok
  | error failure =>
    obtain ⟨refused, rfl, -⟩ := makesAncestors_writeWithParents hanswer
    exact ⟨refused, rfl⟩

end FileSystem

/-! ### Artifacts -/

theorem toList_renderArtifact (lines : List String) :
    (renderArtifact lines).toList = lines.flatMap fun line => line.toList ++ ['\n'] := by
  induction lines with
  | nil => rfl
  | cons line lines ih =>
    rw [renderArtifact, toList_joinLines_cons, ← renderArtifact, ih, List.flatMap_cons]
    simp

/-- The bytes of lines, each followed by a line feed. -/
def Charset.lineBytes (charset : Charset) (lines : List String) : Bytes :=
  lines.flatMap fun line => line.toList.flatMap charset.charBytes ++ charset.charBytes '\n'

theorem Charset.flatMap_charBytes_renderArtifact (charset : Charset) (lines : List String) :
    (renderArtifact lines).toList.flatMap charset.charBytes = charset.lineBytes lines := by
  rw [toList_renderArtifact, List.flatMap_assoc, lineBytes]
  simp

/-- A character that the charset lacks is found before anything is touched. -/
theorem exists_unmappable_of_writeArtifact {lines : List String} {charset : Charset} {c : Char}
    (hc : c ∈ (renderArtifact lines).toList) (h : ¬ charset.Represents c) (path : Path)
    (fs : FileSystem) :
    ∃ first, charset.LacksFirst (renderArtifact lines).toList first ∧
      writeArtifact path lines charset fs = (.error (.unmappable ⟨charset, first⟩), fs) := by
  obtain ⟨first, hfirst⟩ := Charset.exists_lacksFirst hc h
  have hencode : charset.encode (renderArtifact lines) = .error ⟨charset, first⟩ :=
    Charset.encode_eq_error_iff.2 ⟨rfl, hfirst⟩
  exact ⟨first, hfirst, writeArtifact_of_encode_eq_error hencode fs⟩

theorem writesOnly_of_writeArtifact {path : Path} {lines : List String} {charset : Charset}
    {fs : FileSystem} {n : Nat} (h : (writeArtifact path lines charset fs).1 = .ok n) :
    (∀ c ∈ (renderArtifact lines).toList, charset.Represents c) ∧
      n = (charset.lineBytes lines).length ∧
      FileSystem.WritesOnly path (charset.lineBytes lines) fs
        (writeArtifact path lines charset fs).2 := by
  cases hencode : charset.encode (renderArtifact lines) with
  | error cause =>
    rw [writeArtifact_of_encode_eq_error hencode] at h
    cases h
  | ok bytes =>
    rw [writeArtifact_of_encode_eq_ok hencode] at h ⊢
    obtain ⟨hall, rfl⟩ := Charset.encode_eq_ok_iff.1 hencode
    rw [charset.flatMap_charBytes_renderArtifact] at h ⊢
    exact ⟨hall, FileSystem.writesOnly_writeWithParents h⟩

/-- An artifact is not written because the charset lacks a character, or the file system refuses. -/
theorem failures_of_writeArtifact {path : Path} {lines : List String} {charset : Charset}
    {fs : FileSystem} {failure : Failure}
    (h : (writeArtifact path lines charset fs).1 = .error failure) :
    (∃ c, failure = .unmappable ⟨charset, c⟩ ∧
        charset.LacksFirst (renderArtifact lines).toList c) ∨
      ∃ refused, failure = .io refused ∧
        FileSystem.MakesAncestors path fs (writeArtifact path lines charset fs).2 := by
  cases hencode : charset.encode (renderArtifact lines) with
  | error cause =>
    obtain ⟨name, c⟩ := cause
    obtain ⟨hname, hlacks⟩ := Charset.encode_eq_error_iff.1 hencode
    obtain rfl : name = charset := hname
    rw [writeArtifact_of_encode_eq_error hencode] at h
    cases h
    exact .inl ⟨c, rfl, hlacks⟩
  | ok bytes =>
    rw [writeArtifact_of_encode_eq_ok hencode] at h ⊢
    exact .inr (FileSystem.makesAncestors_writeWithParents h)

/-- What becomes of an artifact. -/
structure IsAllOrNothing (path : Path) (lines : List String) (charset : Charset) (fs : FileSystem)
    (result : Except Failure Nat × FileSystem) : Prop where
  /-- If the charset lacks a character, the first such one is told, and nothing is touched. -/
  unmappable : ∀ c ∈ (renderArtifact lines).toList, ¬ charset.Represents c →
    ∃ first, charset.LacksFirst (renderArtifact lines).toList first ∧
      result = (.error (.unmappable ⟨charset, first⟩), fs)
  /-- The whole artifact is written, and besides it at most missing directories above it are new. -/
  written : ∀ n, result.1 = .ok n →
    (∀ c ∈ (renderArtifact lines).toList, charset.Represents c) ∧
      n = (charset.lineBytes lines).length ∧
      FileSystem.WritesOnly path (charset.lineBytes lines) fs result.2
  /-- Where the file system refuses, at most missing directories above the path are new. -/
  refused : ∀ refused, result.1 = .error (.io refused) →
    FileSystem.MakesAncestors path fs result.2 ∧
      ∀ loc content, FileSystem.entry? result.2 loc = some (.file content) ↔
        fs.entry? loc = some (.file content)
  /-- The file system refuses where a file is on the way or a directory in the place. -/
  blocked : fs.IsBlocked path →
    (∀ c ∈ (renderArtifact lines).toList, charset.Represents c) →
      ∃ refused, result.1 = .error (.io refused)
  /-- There is no other way to fail. -/
  failures : ∀ failure, result.1 = .error failure →
    (∃ refused, failure = .io refused) ∨
      ∃ c, failure = .unmappable ⟨charset, c⟩ ∧
        charset.LacksFirst (renderArtifact lines).toList c

/-- An artifact is written completely or not at all. -/
theorem isAllOrNothing_writeArtifact (path : Path) (lines : List String) (charset : Charset)
    (fs : FileSystem) :
    IsAllOrNothing path lines charset fs (writeArtifact path lines charset fs) where
  unmappable _ hc h := exists_unmappable_of_writeArtifact hc h path fs
  written _ hok := writesOnly_of_writeArtifact hok
  refused _ hio := by
    rcases failures_of_writeArtifact hio with ⟨_, hunmappable, -⟩ | ⟨_, -, hmakes⟩
    · cases hunmappable
    · exact ⟨hmakes, fun _ _ => hmakes.addsDirectories.entry?_eq_file_iff⟩
  blocked hblocked hall := by
    rw [writeArtifact_of_encode_eq_ok (Charset.encode_eq_ok_iff.2 ⟨hall, rfl⟩)]
    exact hblocked.exists_io _
  failures _ hfailure := by
    rcases failures_of_writeArtifact hfailure with hunmappable | ⟨refused, hrefused, -⟩
    · exact .inr hunmappable
    · exact .inl ⟨refused, hrefused⟩

end CompilerHints
