import CompilerHints.Proofs.Collector
import CompilerHints.Proofs.Writing

/-!
# Series of lines in a fragment directory

Lines are kept one after the other. The first one makes the directory, if need be; after that every
line is one file that is put, so of the lines of one name the last one stays. Whether all of this
goes well does not depend on what the files hold, and so the same series can be kept again, and
leaves everything as it is.

* `FileSystem.putAll`, `FileSystem.entry?_putAll`, `FileSystem.putAll_again`: entries that are put
  one after the other.
* `FragmentDirectory.IsMade.write_eq_ok_iff`, `FragmentDirectory.canKeep_putAll_iff`: what keeping
  one line does, and what it does not matter for.
* `FragmentDirectory.keepAll?`, `FragmentDirectory.IsMade.keepAll?_eq_some_iff`,
  `FragmentDirectory.exists_putAll_of_keepAll?`: a whole series.
* `FragmentDirectory.keepAll?_again`: the same series once more.
* `CommandSet.toKeep`, `Collector.accept_eq_ok_iff`: the lines that a collector keeps.
-/

namespace CompilerHints

open Text

namespace FileSystem

variable {fs fs' : FileSystem} {puts : List (Location × Entry)} {loc : Location}

theorem Grows.refl (fs : FileSystem) : fs.Grows fs :=
  (AddsDirectories.refl fs).grows

/-- File systems are equal when every location holds the same. -/
theorem ext_entry? (hworking : fs.workingDirectory = fs'.workingDirectory)
    (hroot : fs.entries[([] : Location)]? = fs'.entries[([] : Location)]?)
    (h : ∀ loc, fs.entry? loc = fs'.entry? loc) : fs = fs' := by
  obtain ⟨entries, workingDirectory⟩ := fs
  obtain ⟨entries', workingDirectory'⟩ := fs'
  have hentries : entries = entries' := by
    refine Std.ExtTreeMap.ext_getElem? fun loc => ?_
    by_cases hloc : loc = []
    · exact hloc ▸ hroot
    · have hentry := h loc
      unfold entry? at hentry
      rwa [if_neg hloc, if_neg hloc] at hentry
  rw [hentries, show workingDirectory = workingDirectory' from hworking]

/-! ### Entries that are put one after the other -/

/-- Puts entries one after the other. -/
def putAll (fs : FileSystem) (puts : List (Location × Entry)) : FileSystem :=
  puts.foldl (fun fs p => fs.put p.1 p.2) fs

@[simp] theorem putAll_nil (fs : FileSystem) : fs.putAll [] = fs := rfl

@[simp] theorem putAll_cons (fs : FileSystem) (p : Location × Entry)
    (puts : List (Location × Entry)) : fs.putAll (p :: puts) = (fs.put p.1 p.2).putAll puts := rfl

/-- The entry that is put at a location last. -/
def lastPut? (puts : List (Location × Entry)) (loc : Location) : Option Entry :=
  (puts.reverse.find? fun p => p.1 = loc).map Prod.snd

theorem lastPut?_cons (p : Location × Entry) (puts : List (Location × Entry)) (loc : Location) :
    lastPut? (p :: puts) loc =
      (lastPut? puts loc).or (if loc = p.1 then some p.2 else none) := by
  rw [lastPut?, List.reverse_cons, List.find?_append, Option.map_or, List.find?_singleton]
  congr 1
  simp only [decide_eq_true_eq, eq_comm (a := loc)]
  split <;> rfl

/-- A location holds what was put there last. -/
theorem entry?_putAll (hroot : ∀ p ∈ puts, p.1 ≠ []) (fs : FileSystem) (loc : Location) :
    entry? (fs.putAll puts) loc = (lastPut? puts loc).or (fs.entry? loc) := by
  induction puts generalizing fs with
  | nil => rfl
  | cons p puts ih =>
    obtain ⟨hp, hrest⟩ := List.forall_mem_cons.1 hroot
    rw [putAll_cons, ih hrest, entry?_put hp, lastPut?_cons, Option.or_assoc]
    congr 1
    split <;> rfl

theorem workingDirectory_putAll (fs : FileSystem) (puts : List (Location × Entry)) :
    (fs.putAll puts).workingDirectory = fs.workingDirectory := by
  induction puts generalizing fs with
  | nil => rfl
  | cons p puts ih => exact ih (fs.put p.1 p.2)

theorem root_putAll (hroot : ∀ p ∈ puts, p.1 ≠ []) (fs : FileSystem) :
    (fs.putAll puts).entries[([] : Location)]? = fs.entries[([] : Location)]? := by
  induction puts generalizing fs with
  | nil => rfl
  | cons p puts ih =>
    obtain ⟨hp, hrest⟩ := List.forall_mem_cons.1 hroot
    rw [putAll_cons, ih hrest, put, Std.ExtTreeMap.getElem?_insert, if_neg]
    rwa [Std.LawfulEqCmp.compare_eq_iff_eq]

/-- Putting the same entries once more changes nothing, although on the way an entry may give way to
one that was put at its location earlier. -/
theorem putAll_again (hroot : ∀ p ∈ puts, p.1 ≠ []) (fs : FileSystem) :
    (fs.putAll puts).putAll puts = fs.putAll puts := by
  refine ext_entry? (workingDirectory_putAll _ _) (root_putAll hroot _) fun loc => ?_
  rw [entry?_putAll hroot, entry?_putAll hroot, ← Option.or_assoc, Option.or_self]

/-! ### Files in the place of no directory -/

theorem isDirectoryAt_put_file (hroot : loc ≠ []) (hfree : fs.isDirectoryAt loc = false)
    (content : Bytes) (other : Location) :
    (fs.put loc (.file content)).isDirectoryAt other = fs.isDirectoryAt other := by
  rw [isDirectoryAt, entry?_put hroot]
  split
  · next e =>
    rw [e, hfree]
    rfl
  · rfl

end FileSystem

namespace FragmentDirectory

variable {dir : FragmentDirectory} {fs mid fs' : FileSystem} {line other : Line}
  {lines : List Line}

/-- Keeps lines one after the other. There is nothing after a failure. -/
def keepAll? (dir : FragmentDirectory) (fs : FileSystem) : List Line → Option FileSystem
  | [] => some fs
  | line :: rest =>
    match dir.write line fs with
    | (.ok _, fs) => dir.keepAll? fs rest
    | (.error _, _) => none

theorem keepAll?_append (dir : FragmentDirectory) (fs : FileSystem) (a b : List Line) :
    dir.keepAll? fs (a ++ b) = (dir.keepAll? fs a).bind fun mid => dir.keepAll? mid b := by
  induction a generalizing fs with
  | nil => rfl
  | cons line rest ih =>
    rw [List.cons_append, keepAll?, keepAll?]
    split
    · exact ih _
    · rfl

theorem keepAll?_singleton_eq_some_iff :
    dir.keepAll? fs [line] = some fs' ↔ ∃ p, dir.write line fs = (.ok p, fs') := by
  rw [keepAll?]
  split
  · next h => simp [keepAll?, h]
  · next h => simp [h]

/-- The entries that are put for lines. -/
def puts (dir : FragmentDirectory) (fs : FileSystem) (lines : List Line) :
    List (Location × Entry) :=
  lines.map fun line => (dir.home fs ++ [line.fragmentName], .file (utf8Bytes line.text))

theorem ne_nil_of_mem_puts : ∀ p ∈ dir.puts fs lines, p.1 ≠ [] := by
  intro p hp
  obtain ⟨line, -, rfl⟩ := List.mem_map.1 hp
  exact List.concat_ne_nil _ _

/-- A fragment directory that need not be made any more. -/
def IsMade (dir : FragmentDirectory) (fs : FileSystem) : Prop :=
  fs.createDirectories dir.path = (fs, true)

theorem isMade_of_createDirectories (hmade : fs.createDirectories dir.path = (mid, true)) :
    dir.IsMade mid :=
  FileSystem.Grows.createDirectories hmade (.refl mid)

theorem IsMade.of_grows (h : dir.IsMade fs) (hgrows : fs.Grows fs') : dir.IsMade fs' :=
  FileSystem.Grows.createDirectories h hgrows

/-! ### One line -/

/-- The directory may be made before a line is kept. -/
theorem write_eq_of_createDirectories (hmade : fs.createDirectories dir.path = (mid, true))
    (line : Line) : dir.write line fs = dir.write line mid := by
  rw [write, write, ensure, ensure, hmade, isMade_of_createDirectories hmade]

/-- Where the directory is made, keeping a line puts one file. -/
theorem IsMade.write_eq_ok_iff (h : dir.IsMade fs) {p : Path} :
    dir.write line fs = (.ok p, fs') ↔
      dir.CanKeep fs line ∧ p = dir.fragmentPath line ∧ fs' = fs.putAll (dir.puts fs [line]) := by
  have hwrite : fs.write? (dir.fragmentPath line) (utf8Bytes line.text) = some fs' ↔
      dir.CanKeep fs line ∧ fs' = fs.putAll (dir.puts fs [line]) := by
    simp only [FileSystem.write?_eq_some_iff, target?_fragmentPath_eq_some_iff]
    constructor
    · rintro ⟨_, ⟨hcan, rfl⟩, rfl⟩
      exact ⟨hcan, rfl⟩
    · rintro ⟨hcan, rfl⟩
      exact ⟨_, ⟨hcan, rfl⟩, rfl⟩
  rw [write, ensure, h]
  dsimp only
  split
  · next hsome =>
    rw [hsome, Option.some.injEq] at hwrite
    rw [Prod.mk.injEq, hwrite, Except.ok.injEq, eq_comm (a := dir.fragmentPath line)]
    exact and_left_comm
  · next hnone =>
    rw [hnone] at hwrite
    refine iff_of_false (fun e => by cases e) fun ⟨hcan, _, hfs⟩ => ?_
    cases hwrite.2 ⟨hcan, hfs⟩

theorem CanKeep.grows (h : dir.CanKeep fs line) : fs.Grows (fs.putAll (dir.puts fs [line])) :=
  FileSystem.grows_put_file (List.concat_ne_nil _ _) h.free _

theorem home_putAll (dir : FragmentDirectory) (fs : FileSystem) (puts : List (Location × Entry)) :
    dir.home (fs.putAll puts) = dir.home fs := by
  rw [home, home, FileSystem.workingDirectory_putAll]

theorem puts_putAll (dir : FragmentDirectory) (fs : FileSystem) (puts : List (Location × Entry))
    (lines : List Line) : dir.puts (fs.putAll puts) lines = dir.puts fs lines := by
  rw [FragmentDirectory.puts, FragmentDirectory.puts, home_putAll]

/-- Keeping one line does not matter for whether another one can be kept. -/
theorem CanKeep.canKeep_putAll_iff (h : dir.CanKeep fs line) :
    dir.CanKeep (fs.putAll (dir.puts fs [line])) other ↔ dir.CanKeep fs other := by
  have hhome := dir.home_putAll fs (dir.puts fs [line])
  have hsame (loc : Location) :
      (fs.putAll (dir.puts fs [line])).isDirectoryAt loc = fs.isDirectoryAt loc :=
    FileSystem.isDirectoryAt_put_file (List.concat_ne_nil _ _) h.free _ loc
  constructor
  · rintro ⟨hreaches, hslash, hvalid, -, -, hfree⟩
    rw [hsame, hhome] at hfree
    exact ⟨hreaches, hslash, hvalid, h.walk, h.directory, hfree⟩
  · rintro ⟨hreaches, hslash, hvalid, hwalk, hdir, hfree⟩
    rw [← hsame, ← hhome] at hdir hfree
    refine ⟨hreaches, hslash, hvalid, ?_, hdir, hfree⟩
    rw [hhome, FileSystem.workingDirectory_putAll]
    exact h.grows.walk? hwalk

/-! ### Many lines -/

/-- Nor does keeping many lines. -/
theorem canKeep_putAll_iff (h : ∀ line ∈ lines, dir.CanKeep fs line) :
    dir.CanKeep (fs.putAll (dir.puts fs lines)) other ↔ dir.CanKeep fs other := by
  induction lines generalizing fs with
  | nil => rfl
  | cons line rest ih =>
    obtain ⟨hcan, hrest⟩ := List.forall_mem_cons.1 h
    rw [← hcan.canKeep_putAll_iff, ← ih fun l hl => hcan.canKeep_putAll_iff.2 (hrest l hl),
      puts_putAll]
    rfl

theorem grows_putAll (h : ∀ line ∈ lines, dir.CanKeep fs line) :
    fs.Grows (fs.putAll (dir.puts fs lines)) := by
  induction lines generalizing fs with
  | nil => exact .refl fs
  | cons line rest ih =>
    obtain ⟨hcan, hrest⟩ := List.forall_mem_cons.1 h
    have hgrows := ih fun l hl => hcan.canKeep_putAll_iff.2 (hrest l hl)
    rw [puts_putAll] at hgrows
    exact hcan.grows.trans hgrows

/-- Where the directory is made, the lines are put one after the other, if each of them can be. -/
theorem IsMade.keepAll?_eq_some_iff (h : dir.IsMade fs) :
    dir.keepAll? fs lines = some fs' ↔
      (∀ line ∈ lines, dir.CanKeep fs line) ∧ fs' = fs.putAll (dir.puts fs lines) := by
  induction lines generalizing fs with
  | nil =>
    rw [keepAll?, Option.some.injEq, eq_comm]
    exact (and_iff_right (List.forall_mem_nil _)).symm
  | cons line rest ih =>
    rw [keepAll?, List.forall_mem_cons]
    split
    · next p fs₁ hwrite =>
      obtain ⟨hcan, -, rfl⟩ := h.write_eq_ok_iff.1 hwrite
      rw [ih (h.of_grows hcan.grows), puts_putAll, and_iff_right hcan]
      simp only [hcan.canKeep_putAll_iff]
      rfl
    · next failure fs₁ hwrite =>
      refine iff_of_false (fun e => by cases e) fun ⟨⟨hcan, _⟩, _⟩ => ?_
      rw [h.write_eq_ok_iff.2 ⟨hcan, rfl, rfl⟩] at hwrite
      cases hwrite

/-- A series that goes well makes the directory first, if it is not empty, and then puts its
lines. -/
theorem exists_putAll_of_keepAll? (h : dir.keepAll? fs lines = some fs') :
    ∃ mid, fs.AddsDirectories mid ∧ (lines ≠ [] → dir.IsMade mid) ∧
      (∀ line ∈ lines, dir.CanKeep mid line) ∧ fs' = mid.putAll (dir.puts mid lines) := by
  cases lines with
  | nil =>
    cases h
    exact ⟨fs, .refl fs, fun hne => absurd rfl hne, List.forall_mem_nil _, rfl⟩
  | cons line rest =>
    have hadds := fs.createDirectories_addsDirectories dir.path
    rcases hmade : fs.createDirectories dir.path with ⟨mid, _ | _⟩
    · rw [keepAll?, write, ensure, hmade] at h
      cases h
    · have hmid := isMade_of_createDirectories hmade
      rw [hmade] at hadds
      have hkeep : dir.keepAll? mid (line :: rest) = some fs' := by
        rwa [keepAll?, write_eq_of_createDirectories hmade] at h
      obtain ⟨hcan, hputs⟩ := hmid.keepAll?_eq_some_iff.1 hkeep
      exact ⟨mid, hadds, fun _ => hmid, hcan, hputs⟩

/-- The same series can be kept once more, and everything stays as it is. -/
theorem keepAll?_again (h : dir.keepAll? fs lines = some fs') :
    dir.keepAll? fs' lines = some fs' := by
  obtain ⟨mid, -, hmade, hcan, rfl⟩ := exists_putAll_of_keepAll? h
  by_cases hne : lines = []
  · rw [hne]
    rfl
  · have hcan' (line : Line) (hline : line ∈ lines) :
        dir.CanKeep (mid.putAll (dir.puts mid lines)) line :=
      (canKeep_putAll_iff hcan).2 (hcan line hline)
    refine ((hmade hne).of_grows (grows_putAll hcan)).keepAll?_eq_some_iff.2 ⟨hcan', ?_⟩
    rw [puts_putAll, FileSystem.putAll_again ne_nil_of_mem_puts]

end FragmentDirectory

/-! ### What a collector keeps -/

namespace CommandSet

/-- The lines that are kept for a line that is accepted: none if it is known and no `quiet`. -/
def toKeep (s : CommandSet) (line : Line) : List Line :=
  if line.isQuiet = false ∧ line.text ∈ s.lines then [] else [line]

end CommandSet

namespace Collector

variable {c c' : Collector} {dir : FragmentDirectory} {fs fs' : FileSystem} {line : Line}

/-- A line is accepted if what is to be kept can be kept. -/
theorem accept_eq_ok_iff (hdir : c.fragments? = some dir) :
    (∃ isNew, c.accept line fs = (.ok isNew, c', fs')) ↔
      c' = c.record [line] ∧ dir.keepAll? fs (c.commands.toKeep line) = some fs' := by
  rcases haccept : c.accept line fs with ⟨result, d, mid⟩
  obtain ⟨rfl, ⟨hquiet, hold, rfl, rfl⟩ | ⟨hfresh, hwritten⟩⟩ := accept_incremental hdir haccept
  · have hkeep : c.commands.toKeep line = [] := if_pos ⟨hquiet, hold⟩
    simp [hkeep, FragmentDirectory.keepAll?, eq_comm]
  · have hkeep : c.commands.toKeep line = [line] := if_neg fun ⟨hquiet, hold⟩ => hfresh hquiet hold
    rw [hkeep, FragmentDirectory.keepAll?_singleton_eq_some_iff]
    rcases hwritten with ⟨p, isNew, hwrite, rfl⟩ | ⟨failure, hwrite, rfl⟩
    · simp [hwrite, eq_comm]
    · simp [hwrite]

end Collector

end CompilerHints
