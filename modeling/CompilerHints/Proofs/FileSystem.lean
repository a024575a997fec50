import CompilerHints.FileSystem

/-!
# Following, reading and writing

A path leads where its steps lead, if everything on the way is there. What is written to a path is
read back from it, and neither writing a file nor creating directories changes where other paths
lead.

* `FileSystem.place`: where steps lead, whether or not anything is there.
* `FileSystem.locate?_eq_some_iff`, `FileSystem.read?_eq_some_iff`, `FileSystem.mem_children_iff`:
  when a path leads to a place, to a file, and what is inside a directory.
* `FileSystem.Grows`, `FileSystem.AddsDirectories`: changes that keep paths leading where they did.
* `FileSystem.makeAll_addsDirectories`, `FileSystem.exists_way_of_makeAll`: creating directories
  does nothing else, and where it creates them.
* `FileSystem.write?_eq_some_iff`, `FileSystem.grows_put_file`: what writing does.
* `FileSystem.read?_of_write?`: what was written is read back.
-/

namespace CompilerHints

open Text

namespace FileSystem

theorem entry?_put {fs : FileSystem} {loc : Location} (h : loc ≠ []) (entry : Entry)
    (other : Location) :
    entry? (fs.put loc entry) other = if other = loc then some entry else fs.entry? other := by
  unfold entry? put
  by_cases hroot : other = []
  · rw [if_pos hroot, if_pos hroot, if_neg fun e => h (e.symm.trans hroot)]
  · rw [if_neg hroot, if_neg hroot, Std.ExtTreeMap.getElem?_insert]
    simp only [Std.LawfulEqCmp.compare_eq_iff_eq, eq_comm (a := loc)]

theorem isDirectoryAt_iff {fs : FileSystem} {loc : Location} :
    fs.isDirectoryAt loc = true ↔ fs.entry? loc = some .directory := by
  rw [isDirectoryAt, beq_iff_eq]

/-! ### Steps -/

/-- Where a step leads, whether or not anything is there. -/
def move (loc : Location) : Component → Location
  | .root => []
  | .current => loc
  | .parent => loc.dropLast
  | .child name => loc ++ [name]

/-- Where steps lead, whether or not anything is there. -/
def place (loc : Location) (steps : List Component) : Location :=
  steps.foldl move loc

theorem move_of_follow? {fs : FileSystem} {loc loc' : Location} {step : Component}
    (h : fs.follow? loc step = some loc') : move loc step = loc' := by
  cases step with
  | root => exact Option.some.inj h
  | current => exact (Option.ite_none_right_eq_some.1 h).2 |> Option.some.inj
  | parent => exact (Option.ite_none_right_eq_some.1 h).2 |> Option.some.inj
  | child name => exact (Option.ite_none_right_eq_some.1 h).2 |> Option.some.inj

@[simp] theorem walk?_nil (fs : FileSystem) (loc : Location) : fs.walk? loc [] = some loc := rfl

@[simp] theorem walk?_cons (fs : FileSystem) (loc : Location) (step : Component)
    (steps : List Component) :
    fs.walk? loc (step :: steps) = (fs.follow? loc step).bind (fs.walk? · steps) := by
  rw [walk?, List.foldlM_cons]
  rfl

theorem walk?_append (fs : FileSystem) (loc : Location) (a b : List Component) :
    fs.walk? loc (a ++ b) = (fs.walk? loc a).bind (fs.walk? · b) := by
  rw [walk?, List.foldlM_append]
  rfl

/-- Steps that can be followed lead to one place, whatever else is in the file system. -/
theorem place_of_walk? {fs : FileSystem} {loc loc' : Location} {steps : List Component}
    (h : fs.walk? loc steps = some loc') : place loc steps = loc' := by
  induction steps generalizing loc with
  | nil => exact Option.some.inj h
  | cons step steps ih =>
    rw [walk?_cons, Option.bind_eq_some_iff] at h
    obtain ⟨next, hnext, h⟩ := h
    rw [place, List.foldl_cons, move_of_follow? hnext]
    exact ih h

/-- The last step to an entry of a directory. -/
theorem walk?_concat_child {fs : FileSystem} {start loc : Location} {steps : List Component}
    {name : String} :
    fs.walk? start (steps ++ [.child name]) = some loc ↔
      ∃ dir, fs.walk? start steps = some dir ∧ fs.isDirectoryAt dir = true ∧
        (fs.entry? (dir ++ [name])).isSome ∧ loc = dir ++ [name] := by
  simp only [walk?_append, Option.bind_eq_some_iff, walk?_cons, walk?_nil, follow?,
    Option.ite_none_right_eq_some, Bool.and_eq_true, Option.some.injEq, and_assoc]
  constructor
  · rintro ⟨dir, hwalk, _, hdir, hentry, rfl, rfl⟩
    exact ⟨dir, hwalk, hdir, hentry, rfl⟩
  · rintro ⟨dir, hwalk, hdir, hentry, rfl⟩
    exact ⟨dir, hwalk, _, hdir, hentry, rfl, rfl⟩

/-! ### Paths -/

theorem locate?_eq_some_iff {fs : FileSystem} {p : Path} {loc : Location} :
    fs.locate? p = some loc ↔
      p.text ≠ "" ∧ p.isUsable = true ∧ fs.walk? fs.workingDirectory p.steps = some loc ∧
        (p.endsInSlash = true → fs.isDirectoryAt loc = true) := by
  unfold locate?
  by_cases htext : p.text = ""
  · simp [htext]
  · cases husable : p.isUsable with
    | false => simp
    | true =>
      rw [if_neg (by simpa using htext)]
      split
      · next hwalk => simp [hwalk]
      · next loc' hwalk =>
        rw [hwalk, Option.ite_none_left_eq_some]
        constructor
        · rintro ⟨hdir, h⟩
          cases h
          exact ⟨htext, rfl, rfl, fun hslash => by simpa [hslash] using hdir⟩
        · rintro ⟨-, -, h, hdir⟩
          cases h
          exact ⟨by simpa using hdir, rfl⟩

theorem read?_eq_some_iff {fs : FileSystem} {p : Path} {content : Bytes} :
    fs.read? p = some content ↔
      ∃ loc, fs.locate? p = some loc ∧ fs.entry? loc = some (.file content) := by
  have hfind : fs.read? p = some content ↔ fs.find? p = some (.file content) := by
    unfold read?
    split
    · next h => rw [h, Option.some.injEq, Option.some.injEq, Entry.file.injEq]
    · next h => exact iff_of_false (by simp) (h content)
  rw [hfind, find?, Option.bind_eq_some_iff]

theorem list?_eq_some_iff {fs : FileSystem} {p : Path} {entries : List (String × Entry)} :
    fs.list? p = some entries ↔
      ∃ loc, fs.locate? p = some loc ∧ fs.isDirectoryAt loc = true ∧ entries = fs.children loc := by
  unfold list?
  split
  · next loc h =>
    rw [h, Option.ite_none_right_eq_some, Option.some.injEq]
    simp only [Option.some.injEq, exists_eq_left', eq_comm (a := entries)]
  · next h => simp [h]

theorem isDirectory_iff {fs : FileSystem} {p : Path} :
    fs.isDirectory p = true ↔
      ∃ loc, fs.locate? p = some loc ∧ fs.isDirectoryAt loc = true := by
  rw [isDirectory, find?, beq_iff_eq, Option.bind_eq_some_iff]
  simp only [isDirectoryAt_iff]

/-- A path leads to a directory exactly if there is something to list. -/
theorem isDirectory_iff_exists_list? {fs : FileSystem} {p : Path} :
    fs.isDirectory p = true ↔ ∃ entries, fs.list? p = some entries := by
  simp only [isDirectory_iff, list?_eq_some_iff]
  constructor
  · rintro ⟨loc, hlocate, hdir⟩
    exact ⟨_, loc, hlocate, hdir, rfl⟩
  · rintro ⟨_, loc, hlocate, hdir, -⟩
    exact ⟨loc, hlocate, hdir⟩

/-- What is directly inside a location, by name. -/
theorem mem_children_iff {fs : FileSystem} {loc : Location} {name : String} {entry : Entry} :
    (name, entry) ∈ fs.children loc ↔ fs.entry? (loc ++ [name]) = some entry := by
  have hentry (key : Location) (h : key ≠ []) : fs.entry? key = fs.entries[key]? := if_neg h
  rw [hentry _ (List.concat_ne_nil _ _), children, List.mem_filterMap]
  constructor
  · rintro ⟨⟨key, e⟩, hmem, h⟩
    rw [Std.ExtTreeMap.mem_toList_iff_getElem?_eq_some] at hmem
    dsimp only at h
    split at h
    · next last hlast =>
      obtain ⟨above, rfl⟩ := List.getLast?_eq_some_iff.1 hlast
      rw [List.dropLast_concat, Option.ite_none_right_eq_some] at h
      obtain ⟨rfl, h⟩ := h
      cases h
      exact hmem
    · cases h
  · intro h
    refine ⟨(loc ++ [name], entry), Std.ExtTreeMap.mem_toList_iff_getElem?_eq_some.2 h, ?_⟩
    simp

/-! ### Changes that keep paths -/

/-- Directories stay directories, and everything that is there stays there. -/
structure Grows (fs fs' : FileSystem) : Prop where
  workingDirectory : fs'.workingDirectory = fs.workingDirectory
  directory : ∀ loc, fs.isDirectoryAt loc = true → fs'.isDirectoryAt loc = true
  entry : ∀ loc, (fs.entry? loc).isSome → (fs'.entry? loc).isSome

theorem Grows.trans {a b c : FileSystem} (hab : a.Grows b) (hbc : b.Grows c) : a.Grows c where
  workingDirectory := hbc.workingDirectory.trans hab.workingDirectory
  directory loc h := hbc.directory loc (hab.directory loc h)
  entry loc h := hbc.entry loc (hab.entry loc h)

theorem Grows.follow? {fs fs' : FileSystem} (h : fs.Grows fs') {loc loc' : Location}
    {step : Component} (hf : fs.follow? loc step = some loc') :
    fs'.follow? loc step = some loc' := by
  cases step with
  | root => exact hf
  | current =>
    obtain ⟨hdir, e⟩ := Option.ite_none_right_eq_some.1 hf
    exact Option.ite_none_right_eq_some.2 ⟨h.directory _ hdir, e⟩
  | parent =>
    obtain ⟨hdir, e⟩ := Option.ite_none_right_eq_some.1 hf
    exact Option.ite_none_right_eq_some.2 ⟨h.directory _ hdir, e⟩
  | child name =>
    obtain ⟨hdir, e⟩ := Option.ite_none_right_eq_some.1 hf
    rw [Bool.and_eq_true] at hdir
    exact Option.ite_none_right_eq_some.2
      ⟨Bool.and_eq_true_iff.2 ⟨h.directory _ hdir.1, h.entry _ hdir.2⟩, e⟩

/-- Steps lead where they did. -/
theorem Grows.walk? {fs fs' : FileSystem} (h : fs.Grows fs') {loc loc' : Location}
    {steps : List Component} (hw : fs.walk? loc steps = some loc') :
    fs'.walk? loc steps = some loc' := by
  induction steps generalizing loc with
  | nil => exact hw
  | cons step steps ih =>
    rw [walk?_cons, Option.bind_eq_some_iff] at hw ⊢
    obtain ⟨next, hnext, hw⟩ := hw
    exact ⟨next, h.follow? hnext, ih hw⟩

/-- Paths lead where they did. -/
theorem Grows.locate? {fs fs' : FileSystem} (h : fs.Grows fs') {p : Path} {loc : Location}
    (hlocate : fs.locate? p = some loc) : fs'.locate? p = some loc := by
  obtain ⟨htext, husable, hwalk, hslash⟩ := locate?_eq_some_iff.1 hlocate
  refine locate?_eq_some_iff.2 ⟨htext, husable, ?_, fun e => h.directory _ (hslash e)⟩
  rw [h.workingDirectory]
  exact h.walk? hwalk

theorem Grows.isDirectory {fs fs' : FileSystem} (h : fs.Grows fs') {p : Path}
    (hdir : fs.isDirectory p = true) : fs'.isDirectory p = true := by
  obtain ⟨loc, hlocate, hdir⟩ := isDirectory_iff.1 hdir
  exact isDirectory_iff.2 ⟨loc, h.locate? hlocate, h.directory _ hdir⟩

/-- A file is still read, if its own place holds it still. -/
theorem Grows.read? {fs fs' : FileSystem} (h : fs.Grows fs') {p : Path} {content : Bytes}
    (hread : fs.read? p = some content)
    (hentry : ∀ loc, fs.locate? p = some loc → fs.entry? loc = some (.file content) →
      fs'.entry? loc = some (.file content)) : fs'.read? p = some content := by
  obtain ⟨loc, hlocate, hfile⟩ := read?_eq_some_iff.1 hread
  exact read?_eq_some_iff.2 ⟨loc, h.locate? hlocate, hentry loc hlocate hfile⟩

/-- Some directories are new, and nothing else changed. -/
structure AddsDirectories (fs fs' : FileSystem) : Prop where
  workingDirectory : fs'.workingDirectory = fs.workingDirectory
  entry : ∀ loc, fs'.entry? loc = fs.entry? loc ∨
    (fs.entry? loc = none ∧ fs'.entry? loc = some .directory)

namespace AddsDirectories

theorem refl (fs : FileSystem) : fs.AddsDirectories fs where
  workingDirectory := rfl
  entry _ := .inl rfl

theorem trans {a b c : FileSystem} (hab : a.AddsDirectories b) (hbc : b.AddsDirectories c) :
    a.AddsDirectories c where
  workingDirectory := hbc.workingDirectory.trans hab.workingDirectory
  entry loc := by
    rcases hab.entry loc, hbc.entry loc with ⟨h | ⟨h, h'⟩, g | ⟨g, g'⟩⟩
    · exact .inl (g.trans h)
    · exact .inr ⟨h ▸ g, g'⟩
    · exact .inr ⟨h, g.trans h'⟩
    · rw [g] at h'
      cases h'

theorem grows {fs fs' : FileSystem} (h : fs.AddsDirectories fs') : fs.Grows fs' where
  workingDirectory := h.workingDirectory
  directory loc hdir := by
    rw [isDirectoryAt_iff] at hdir ⊢
    rcases h.entry loc with e | ⟨-, e⟩
    · exact e.trans hdir
    · exact e
  entry loc hsome := by
    rcases h.entry loc with e | ⟨-, e⟩
    · rwa [e]
    · rw [e]
      rfl

/-- The files are the same. -/
theorem entry?_eq_file_iff {fs fs' : FileSystem} (h : fs.AddsDirectories fs') {loc : Location}
    {content : Bytes} :
    fs'.entry? loc = some (.file content) ↔ fs.entry? loc = some (.file content) := by
  rcases h.entry loc with e | ⟨e, e'⟩
  · rw [e]
  · rw [e, e']
    exact iff_of_false (by simp) (by simp)

end AddsDirectories

theorem addsDirectories_put {fs : FileSystem} {loc : Location} (hroot : loc ≠ [])
    (h : fs.entry? loc = none) : fs.AddsDirectories (fs.put loc .directory) where
  workingDirectory := rfl
  entry other := by
    rw [entry?_put hroot]
    split
    · next e => exact .inr ⟨e ▸ h, rfl⟩
    · exact .inl rfl

/-- Creating directories does nothing else, also where it fails. -/
theorem makeAll_addsDirectories (fs : FileSystem) (loc : Location) (steps : List Component) :
    fs.AddsDirectories (fs.makeAll loc steps).1 := by
  induction steps generalizing fs loc with
  | nil => exact .refl fs
  | cons step rest ih =>
    cases step with
    | root => exact ih fs []
    | current => exact ih fs loc
    | parent => exact ih fs loc.dropLast
    | child name =>
      rw [makeAll]
      split
      · exact ih fs (loc ++ [name])
      · exact .refl fs
      · next h =>
        -- nothing is there: the one place where a directory is made
        split
        · exact (addsDirectories_put (List.concat_ne_nil _ _) h).trans (ih _ _)
        · exact .refl fs

/-- Directories are created only at places that the steps lead through. -/
theorem exists_way_of_makeAll {fs : FileSystem} {loc other : Location} {steps : List Component}
    (h : entry? (fs.makeAll loc steps).1 other ≠ fs.entry? other) :
    ∃ way, way ≠ [] ∧ way <+: steps ∧ other = place loc way := by
  induction steps generalizing fs loc with
  | nil => exact absurd rfl h
  | cons step rest ih =>
    have hlater {fs' : FileSystem}
        (h : entry? (fs'.makeAll (move loc step) rest).1 other ≠ fs'.entry? other) :
        ∃ way, way ≠ [] ∧ way <+: step :: rest ∧ other = place loc way := by
      obtain ⟨way, -, hway, hplace⟩ := ih h
      exact ⟨step :: way, List.cons_ne_nil _ _, List.prefix_cons_iff.2 (.inr ⟨way, rfl, hway⟩),
        hplace⟩
    cases step with
    | root => exact hlater h
    | current => exact hlater h
    | parent => exact hlater h
    | child name =>
      rw [makeAll] at h
      split at h
      · exact hlater h
      · exact absurd rfl h
      · split at h
        · by_cases hhere : other = loc ++ [name]
          · exact ⟨[.child name], List.cons_ne_nil _ _, List.prefix_append _ rest, hhere⟩
          · refine hlater fun e => h (e.trans ?_)
            rw [entry?_put (List.concat_ne_nil _ _), if_neg hhere]
        · exact absurd rfl h

theorem createDirectories_addsDirectories (fs : FileSystem) (p : Path) :
    fs.AddsDirectories (fs.createDirectories p).1 := by
  unfold createDirectories
  split
  · exact makeAll_addsDirectories fs _ _
  · exact .refl fs

theorem isUsable_of_createDirectories {fs fs' : FileSystem} {p : Path}
    (h : fs.createDirectories p = (fs', true)) : p.isUsable = true := by
  unfold createDirectories at h
  split at h
  · next husable => exact husable
  · cases h

/-! ### Writing -/

/-- What a path for writing names: an entry of a directory, which is not a directory itself. -/
theorem target?_eq_some_iff {fs : FileSystem} {p : Path} {loc : Location} :
    fs.target? p = some loc ↔
      p.isUsable = true ∧ p.endsInSlash = false ∧
        ∃ above name dir, p.steps = above ++ [.child name] ∧
          fs.walk? fs.workingDirectory above = some dir ∧ fs.isDirectoryAt dir = true ∧
          isValidName name = true ∧ fs.isDirectoryAt (dir ++ [name]) = false ∧
          loc = dir ++ [name] := by
  unfold target?
  cases husable : p.isUsable with
  | false => simp
  | true =>
    cases hslash : p.endsInSlash with
    | true => simp
    | false =>
      simp only [Bool.not_true, Bool.or_self, Bool.false_eq_true, if_false, true_and]
      constructor
      · intro h
        -- only a step to an entry can be written to
        split at h
        · next name hlast =>
          obtain ⟨above, hsteps⟩ := List.getLast?_eq_some_iff.1 hlast
          rw [hsteps, List.dropLast_concat] at h
          split at h
          · next dir hwalk =>
            split at h
            · next hdir =>
              simp only [Bool.and_eq_true, Bool.not_eq_true'] at hdir
              exact ⟨above, name, dir, hsteps, hwalk, hdir.1.1, hdir.1.2, hdir.2,
                (Option.some.inj h).symm⟩
            · cases h
          · cases h
        · cases h
      · rintro ⟨above, name, dir, hsteps, hwalk, hdir, hname, hfree, rfl⟩
        simp only [hsteps, List.getLast?_concat, List.dropLast_concat, hwalk, hdir, hname, hfree]
        rfl

theorem write?_eq_some_iff {fs fs' : FileSystem} {p : Path} {content : Bytes} :
    fs.write? p content = some fs' ↔
      ∃ loc, fs.target? p = some loc ∧ fs' = fs.put loc (.file content) := by
  rw [write?, Option.map_eq_some_iff]
  simp only [eq_comm]

/-- A file in the place of no directory. -/
theorem grows_put_file {fs : FileSystem} {loc : Location} (hroot : loc ≠ [])
    (hfree : fs.isDirectoryAt loc = false) (content : Bytes) :
    fs.Grows (fs.put loc (.file content)) where
  workingDirectory := rfl
  directory other hdir := by
    rw [isDirectoryAt_iff] at hdir ⊢
    rw [entry?_put hroot, if_neg, hdir]
    rintro rfl
    rw [isDirectoryAt_iff.2 hdir] at hfree
    cases hfree
  entry other hsome := by
    rw [entry?_put hroot]
    split
    · rfl
    · exact hsome

/-- Once a file is in the place that a path names for writing, the path leads to it. -/
theorem locate?_put_of_target? {fs : FileSystem} {p : Path} {loc : Location}
    (h : fs.target? p = some loc) (content : Bytes) :
    (fs.put loc (.file content)).locate? p = some loc := by
  obtain ⟨husable, hslash, above, name, dir, hsteps, hwalk, hdir, -, hfree, rfl⟩ :=
    target?_eq_some_iff.1 h
  have hroot : dir ++ [name] ≠ [] := List.concat_ne_nil _ _
  have hgrows := grows_put_file hroot hfree content
  have hfile : entry? (fs.put (dir ++ [name]) (.file content)) (dir ++ [name]) =
      some (.file content) := by
    rw [entry?_put hroot, if_pos rfl]
  -- the empty path has no steps, so it has no last one
  have htext : p.text ≠ "" := by
    intro e
    obtain ⟨text⟩ := p
    have hnil : (⟨""⟩ : Path).steps = [] := rfl
    rw [show text = "" from e, hnil] at hsteps
    exact List.concat_ne_nil _ _ hsteps.symm
  have hwalk' := walk?_concat_child.2
    ⟨dir, hgrows.walk? hwalk, hgrows.directory _ hdir, Option.isSome_of_eq_some hfile, rfl⟩
  rw [← hsteps, ← hgrows.workingDirectory] at hwalk'
  refine locate?_eq_some_iff.2 ⟨htext, husable, hwalk', ?_⟩
  rw [hslash]
  exact fun e => absurd e Bool.false_ne_true

theorem ne_nil_of_target? {fs : FileSystem} {p : Path} {loc : Location}
    (h : fs.target? p = some loc) : loc ≠ [] := by
  obtain ⟨-, -, _, _, _, -, -, -, -, -, rfl⟩ := target?_eq_some_iff.1 h
  exact List.concat_ne_nil _ _

/-- What was written is read back. -/
theorem read?_of_write? {fs fs' : FileSystem} {p : Path} {content : Bytes}
    (h : fs.write? p content = some fs') : fs'.read? p = some content := by
  obtain ⟨loc, htarget, rfl⟩ := write?_eq_some_iff.1 h
  refine read?_eq_some_iff.2 ⟨loc, locate?_put_of_target? htarget content, ?_⟩
  rw [entry?_put (ne_nil_of_target? htarget), if_pos rfl]

end FileSystem

end CompilerHints
