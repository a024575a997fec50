import CompilerHints.Proofs.Incremental.Confined
import CompilerHints.Proofs.Incremental.Series

/-!
# Series of lines that may fail

Lines are tried one after the other, whether or not each of them can be kept. Which of them can is
up to their names and to the files in the beginning: trying a line does not help or hinder another
one. So a line need not be tried that has the name of another one, but for the text that the
fragment has in the end.

* `FragmentDirectory.tryAll`: a series of lines, also after failures.
* `FragmentDirectory.exists_putAll_of_tryAll`: the files that it puts.
* `FragmentDirectory.changesOnly_tryAll`, `FragmentDirectory.ChangesOnly.read?_fragmentPath`: what
  becomes of a fragment.
* `FragmentDirectory.SameButShared`, `FragmentDirectory.CoversNames.sameButShared`: what leaving out
  lines of a series changes, as long as no name is left out.
* `FragmentDirectory.CoversNames.tryAll_eq`: when it changes nothing.
-/

namespace CompilerHints

open Text

namespace FileSystem

variable {puts : List (Location × Entry)} {loc : Location}

theorem mem_of_lastPut? {entry : Entry} (h : lastPut? puts loc = some entry) :
    (loc, entry) ∈ puts := by
  obtain ⟨⟨place, last⟩, hfind, rfl⟩ := Option.map_eq_some_iff.1 h
  have hplace : place = loc := by simpa using List.find?_some hfind
  rw [← hplace]
  exact List.mem_reverse.1 (List.mem_of_find?_eq_some hfind)

theorem lastPut?_eq_none_iff : lastPut? puts loc = none ↔ ∀ p ∈ puts, p.1 ≠ loc := by
  simp [lastPut?]

end FileSystem

namespace FragmentDirectory

variable {dir : FragmentDirectory} {fs fs' mid : FileSystem} {line : Line}
  {lines kept : List Line} {content : Bytes}

/-! ### What a series puts -/

/-- Tries to keep lines one after the other, and goes on after a failure. -/
def tryAll (dir : FragmentDirectory) (fs : FileSystem) : List Line → FileSystem
  | [] => fs
  | line :: rest => dir.tryAll (dir.write line fs).2 rest

theorem tryAll_append (dir : FragmentDirectory) (fs : FileSystem) (a b : List Line) :
    dir.tryAll fs (a ++ b) = dir.tryAll (dir.tryAll fs a) b := by
  induction a generalizing fs with
  | nil => rfl
  | cons line rest ih => exact ih (dir.write line fs).2

/-- Where each line can be kept, trying is keeping. -/
theorem tryAll_of_keepAll? (h : dir.keepAll? fs lines = some fs') : dir.tryAll fs lines = fs' := by
  induction lines generalizing fs with
  | nil => exact Option.some.inj h
  | cons line rest ih =>
    rw [keepAll?] at h
    split at h
    · next hwrite =>
      rw [tryAll, hwrite]
      exact ih h
    · cases h

instance (dir : FragmentDirectory) (fs : FileSystem) (line : Line) :
    Decidable (dir.CanKeep fs line) :=
  decidable_of_iff (fs.target? (dir.fragmentPath line) = some (dir.home fs ++ [line.fragmentName]))
    (by rw [target?_fragmentPath_eq_some_iff, and_iff_left rfl])

/-- Whether a line can be kept is up to its name. -/
theorem CanKeep.of_fragmentName_eq {other : Line} (h : dir.CanKeep fs line)
    (hname : line.fragmentName = other.fragmentName) : dir.CanKeep fs other := by
  obtain ⟨hreaches, hslash, hvalid, hwalk, hdir, hfree⟩ := h
  unfold fragmentPath at hslash
  rw [hname] at hreaches hslash hvalid hfree
  exact ⟨hreaches, hslash, hvalid, hwalk, hdir, hfree⟩

/-- Where the directory cannot be made, what can be made above it is all that a line leaves. -/
theorem files_write_of_not_made (h : fs.createDirectories dir.path = (mid, false)) (line : Line) :
    (dir.write line fs).2 = mid := by
  rw [write, ensure, h]

theorem tryAll_of_not_made (h : fs.createDirectories dir.path = (mid, false))
    (hne : lines ≠ []) : dir.tryAll fs lines = mid := by
  induction lines generalizing fs with
  | nil => exact absurd rfl hne
  | cons line rest ih =>
    rw [tryAll, files_write_of_not_made h]
    cases rest with
    | nil => rfl
    | cons next rest => exact ih (FileSystem.createDirectories_again h) (List.cons_ne_nil _ _)

/-- Where the directory is made, a line that cannot be kept leaves nothing. -/
theorem IsMade.files_write (h : dir.IsMade fs) (line : Line) :
    (dir.write line fs).2 = fs.putAll (dir.puts fs ([line].filter (dir.CanKeep fs ·))) := by
  by_cases hcan : dir.CanKeep fs line
  · rw [h.write_eq_ok_iff.2 ⟨hcan, rfl, rfl⟩]
    simp [hcan]
  · have hnone : fs.write? (dir.fragmentPath line) (utf8Bytes line.text) = none := by
      rw [Option.eq_none_iff_forall_ne_some]
      intro fs' hwrite
      obtain ⟨loc, htarget, -⟩ := FileSystem.write?_eq_some_iff.1 hwrite
      exact hcan (target?_fragmentPath_eq_some_iff.1 htarget).1
    rw [write, ensure, h]
    dsimp only
    rw [hnone]
    simp [hcan, puts]

/-- Where the directory is made, a series puts the lines that can be kept in the beginning. -/
theorem IsMade.tryAll_eq (h : dir.IsMade fs) (lines : List Line) :
    dir.tryAll fs lines = fs.putAll (dir.puts fs (lines.filter (dir.CanKeep fs ·))) := by
  induction lines generalizing fs with
  | nil => rfl
  | cons line rest ih =>
    rw [tryAll, h.files_write]
    by_cases hcan : dir.CanKeep fs line
    · have hone : [line].filter (dir.CanKeep fs ·) = [line] := by simp [hcan]
      have hrest : rest.filter (dir.CanKeep (fs.putAll (dir.puts fs [line])) ·) =
          rest.filter (dir.CanKeep fs ·) := by
        simp only [hcan.canKeep_putAll_iff]
      rw [hone, ih (h.of_grows hcan.grows), hrest, puts_putAll]
      simp [hcan, puts]
    · simp only [List.filter_cons, hcan, decide_false, Bool.false_eq_true, if_false]
      exact ih h

/-- A series puts some of its lines, beside directories that were missing. Which lines is up to
their names, whatever else is in the series. -/
theorem exists_putAll_of_tryAll (dir : FragmentDirectory) (fs : FileSystem) :
    ∃ (mid : FileSystem) (can : Line → Bool),
      (∀ a b, a.fragmentName = b.fragmentName → can a = true → can b = true) ∧
      ∀ lines, lines ≠ [] → dir.tryAll fs lines = mid.putAll (dir.puts mid (lines.filter can)) := by
  rcases hmade : fs.createDirectories dir.path with ⟨mid, _ | _⟩
  · refine ⟨mid, fun _ => false, fun _ _ _ h => h, ?_⟩
    intro lines hne
    rw [tryAll_of_not_made hmade hne]
    simp [puts]
  · refine ⟨mid, (dir.CanKeep mid ·), ?_, ?_⟩
    · intro a b hname h
      rw [decide_eq_true_eq] at h ⊢
      exact h.of_fragmentName_eq hname
    · intro lines hne
      obtain ⟨line, rest, rfl⟩ := List.exists_cons_of_ne_nil hne
      rw [← (isMade_of_createDirectories hmade).tryAll_eq, tryAll, tryAll,
        write_eq_of_createDirectories hmade]

/-! ### What becomes of a fragment -/

theorem changesOnly_tryAll (dir : FragmentDirectory) (fs : FileSystem) (lines : List Line) :
    dir.ChangesOnly lines fs (dir.tryAll fs lines) := by
  induction lines generalizing fs with
  | nil => exact .refl dir fs
  | cons line rest ih => exact (dir.changesOnly_write line fs).trans (ih (dir.write line fs).2)

/-- What can be read in the place of a fragment is read later on too, or a line of the same name was
kept there. -/
theorem ChangesOnly.read?_fragmentPath (h : dir.ChangesOnly lines fs fs')
    (hread : fs.read? (dir.fragmentPath line) = some content) :
    fs'.read? (dir.fragmentPath line) = some content ∨
      ∃ other ∈ lines, other.fragmentName = line.fragmentName ∧
        fs'.read? (dir.fragmentPath line) = some (utf8Bytes other.text) := by
  simp only [FileSystem.read?_eq_some_iff] at hread ⊢
  obtain ⟨loc, hlocate, hfile⟩ := hread
  have hlater := h.grows.locate? hlocate
  cases h.change loc with
  | unchanged hsame => exact .inl ⟨loc, hlater, hsame.trans hfile⟩
  | made hbefore _ _ =>
    rw [hbefore] at hfile
    cases hfile
  | @written other hother hplace _ hafter _ =>
    rw [locate?_fragmentPath hlocate] at hplace
    have hname := List.singleton_inj.1 (List.append_cancel_left hplace)
    exact .inr ⟨other, hother, hname.symm, loc, hlater, hafter⟩

/-! ### Two series with the same names -/

/-- Every location holds the same, but for fragments of lines that share a name: such a fragment may
have the text of any of them. -/
def SameButShared (lines : List Line) (fs fs' : FileSystem) : Prop :=
  ∀ loc, fs.entry? loc = fs'.entry? loc ∨
    ∃ a ∈ lines, ∃ b ∈ lines, a.fragmentName = b.fragmentName ∧
      fs.entry? loc = some (.file (utf8Bytes a.text)) ∧
      fs'.entry? loc = some (.file (utf8Bytes b.text))

theorem SameButShared.entry?_eq (h : SameButShared lines fs fs') (hnames : NamesTellTexts lines)
    (loc : Location) : fs.entry? loc = fs'.entry? loc := by
  rcases h loc with hsame | ⟨a, ha, b, hb, hname, hfile, hfile'⟩
  · exact hsame
  · rw [hfile, hfile', hnames a ha b hb hname]

theorem exists_of_lastPut?_puts {loc : Location} {entry : Entry}
    (h : FileSystem.lastPut? (dir.puts fs lines) loc = some entry) :
    ∃ line ∈ lines, loc = dir.home fs ++ [line.fragmentName] ∧
      entry = .file (utf8Bytes line.text) := by
  obtain ⟨line, hline, hput⟩ := List.mem_map.1 (FileSystem.mem_of_lastPut? h)
  obtain ⟨hloc, hentry⟩ := Prod.mk.inj hput
  exact ⟨line, hline, hloc.symm, hentry.symm⟩

theorem lastPut?_puts_eq_none_iff {loc : Location} :
    FileSystem.lastPut? (dir.puts fs lines) loc = none ↔
      ∀ line ∈ lines, dir.home fs ++ [line.fragmentName] ≠ loc := by
  rw [FileSystem.lastPut?_eq_none_iff, puts, List.forall_mem_map]

/-- Of the lines of a series some are left out, but each name is still there. -/
structure CoversNames (kept lines : List Line) : Prop where
  mem : ∀ line ∈ kept, line ∈ lines
  name : ∀ line ∈ lines, ∃ other ∈ kept, other.fragmentName = line.fragmentName

namespace CoversNames

theorem eq_nil_iff (h : CoversNames kept lines) : kept = [] ↔ lines = [] := by
  simp only [List.eq_nil_iff_forall_not_mem]
  constructor
  · intro hkept line hline
    obtain ⟨other, hother, -⟩ := h.name line hline
    exact hkept other hother
  · intro hlines line hline
    exact hlines line (h.mem line hline)

theorem filter (h : CoversNames kept lines) {can : Line → Bool}
    (hcan : ∀ a b, a.fragmentName = b.fragmentName → can a = true → can b = true) :
    CoversNames (kept.filter can) (lines.filter can) where
  mem line hline := by
    rw [List.mem_filter] at hline ⊢
    exact ⟨h.mem line hline.1, hline.2⟩
  name line hline := by
    rw [List.mem_filter] at hline
    obtain ⟨other, hother, hname⟩ := h.name line hline.1
    exact ⟨other, List.mem_filter.2 ⟨hother, hcan line other hname.symm hline.2⟩, hname⟩

/-- Both series put lines into the same file system, and again no name is left out. -/
theorem exists_putAll (h : CoversNames kept lines) (dir : FragmentDirectory) (fs : FileSystem) :
    ∃ (mid : FileSystem) (a b : List Line), CoversNames a b ∧ (∀ line ∈ b, line ∈ lines) ∧
      dir.tryAll fs kept = mid.putAll (dir.puts mid a) ∧
      dir.tryAll fs lines = mid.putAll (dir.puts mid b) := by
  by_cases hlines : lines = []
  · rw [h.eq_nil_iff.2 hlines, hlines]
    exact ⟨fs, [], [], ⟨by simp, by simp⟩, by simp, rfl, rfl⟩
  · obtain ⟨mid, can, hcan, hputs⟩ := dir.exists_putAll_of_tryAll fs
    refine ⟨mid, _, _, h.filter hcan, ?_, hputs kept (mt h.eq_nil_iff.1 hlines),
      hputs lines hlines⟩
    intro line hline
    exact (List.mem_filter.1 hline).1

/-- Both series put something at a location, or none does. -/
theorem lastPut?_eq_none_iff (h : CoversNames kept lines) (dir : FragmentDirectory)
    (fs : FileSystem) (loc : Location) :
    FileSystem.lastPut? (dir.puts fs kept) loc = none ↔
      FileSystem.lastPut? (dir.puts fs lines) loc = none := by
  rw [lastPut?_puts_eq_none_iff, lastPut?_puts_eq_none_iff]
  constructor
  · intro hkept line hline
    obtain ⟨other, hother, hname⟩ := h.name line hline
    rw [← hname]
    exact hkept other hother
  · intro hlines line hline
    exact hlines line (h.mem line hline)

/-- Leaving out some lines of a series, but no name, changes no more than texts of lines that share
a name. -/
theorem sameButShared (h : CoversNames kept lines) (dir : FragmentDirectory) (fs : FileSystem) :
    SameButShared lines (dir.tryAll fs kept) (dir.tryAll fs lines) := by
  intro loc
  obtain ⟨mid, a, b, hcovers, hmem, hkept, hlines⟩ := h.exists_putAll dir fs
  rw [hkept, hlines, FileSystem.entry?_putAll ne_nil_of_mem_puts,
    FileSystem.entry?_putAll ne_nil_of_mem_puts]
  have hnone := hcovers.lastPut?_eq_none_iff dir mid loc
  rcases hlast : FileSystem.lastPut? (dir.puts mid a) loc with _ | entry
  · rw [hnone.1 hlast]
    exact .inl rfl
  · rcases hlast' : FileSystem.lastPut? (dir.puts mid b) loc with _ | entry'
    · rw [hnone.2 hlast'] at hlast
      cases hlast
    · obtain ⟨line, hline, hloc, rfl⟩ := exists_of_lastPut?_puts hlast
      obtain ⟨other, hother, hloc', rfl⟩ := exists_of_lastPut?_puts hlast'
      have hname := List.singleton_inj.1 (List.append_cancel_left (hloc.symm.trans hloc'))
      have hline' := hmem line (hcovers.mem line hline)
      exact .inr ⟨line, hline', other, hmem other hother, hname, rfl, rfl⟩

/-- If the lines of one name have one text, it changes nothing at all. -/
theorem tryAll_eq (h : CoversNames kept lines) (htexts : NamesTellTexts lines)
    (dir : FragmentDirectory) (fs : FileSystem) : dir.tryAll fs kept = dir.tryAll fs lines := by
  have hsame := (h.sameButShared dir fs).entry?_eq htexts
  obtain ⟨mid, a, b, -, -, hkept, hlines⟩ := h.exists_putAll dir fs
  rw [hkept, hlines] at hsame ⊢
  apply FileSystem.ext_entry? _ _ hsame
  · rw [FileSystem.workingDirectory_putAll, FileSystem.workingDirectory_putAll]
  · rw [FileSystem.root_putAll ne_nil_of_mem_puts, FileSystem.root_putAll ne_nil_of_mem_puts]

end CoversNames

end FragmentDirectory

end CompilerHints
