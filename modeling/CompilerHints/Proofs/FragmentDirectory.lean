import CompilerHints.FragmentDirectory
import CompilerHints.Proofs.CommandSet
import CompilerHints.Proofs.FileSystem
import CompilerHints.Proofs.FragmentName
import CompilerHints.Proofs.Path
import CompilerHints.Proofs.Pieces

/-!
# Fragments in files

A fragment directory is a place in the file system, and the fragment of a line is an entry of it.
Keeping a line writes this one file and touches no other; collecting reads the lines of all files.

* `FragmentDirectory.home`, `FragmentDirectory.IsReady`: where a fragment directory is, and that
  it is there.
* `FragmentDirectory.CanKeep`, `FragmentDirectory.target?_fragmentPath_eq_some_iff`: when a fragment
  can be written.
* `FragmentDirectory.Keeps`, `FragmentDirectory.keeps_of_write`: what keeping a line does.
* `FragmentDirectory.Holds`: a line can be read back from its fragment.
* `FragmentDirectory.files`, `FragmentDirectory.readable`: the files of a fragment directory.
* `FragmentDirectory.Enumeration`, `FragmentDirectory.collectIn_eq_ok`,
  `FragmentDirectory.collectIn_eq_error`: what is collected from files, in whatever order they come.
-/

namespace CompilerHints

open Text

theorem Line.isEntryName_fragmentName (line : Line) : Path.IsEntryName line.fragmentName where
  slash := line.slash_not_mem_fragmentName
  nonempty h := absurd (h ▸ line.hyphen_mem_fragmentName) (by decide)
  current h := absurd (h ▸ line.hyphen_mem_fragmentName) (by decide)
  parent h := absurd (h ▸ line.hyphen_mem_fragmentName) (by decide)

namespace FragmentDirectory

variable {dir : FragmentDirectory} {fs fs' : FileSystem} {line : Line}

/-- Where the steps of a fragment directory lead, whether or not it is there. -/
def home (dir : FragmentDirectory) (fs : FileSystem) : Location :=
  FileSystem.place fs.workingDirectory dir.path.steps

/-- No file is directly inside the place where a fragment directory is, or where it will be. -/
def HasNoFile (dir : FragmentDirectory) (fs : FileSystem) : Prop :=
  ∀ name content, fs.entry? (dir.home fs ++ [name]) ≠ some (.file content)

theorem hasNoFile_inDirectory (dir : FragmentDirectory) (loc : Location) :
    dir.HasNoFile (.inDirectory loc) := by
  intro name content
  have hadds := FileSystem.makeAll_addsDirectories ⟨∅, loc⟩ [] (loc.map .child)
  rw [FileSystem.inDirectory, Ne, hadds.entry?_eq_file_iff, FileSystem.entry?,
    if_neg (List.concat_ne_nil _ _)]
  simp

/-- A fragment directory is there, and its path leads to it. -/
structure IsReady (dir : FragmentDirectory) (fs : FileSystem) : Prop where
  usable : dir.path.isUsable = true
  walk : fs.walk? fs.workingDirectory dir.path.steps = some (dir.home fs)
  directory : fs.isDirectoryAt (dir.home fs) = true

theorem home_of_grows (h : fs.Grows fs') : dir.home fs' = dir.home fs := by
  rw [home, home, h.workingDirectory]

theorem IsReady.of_grows (hready : dir.IsReady fs) (h : fs.Grows fs') : dir.IsReady fs' where
  usable := hready.usable
  walk := by
    rw [home_of_grows h, h.workingDirectory]
    exact h.walk? hready.walk
  directory := by
    rw [home_of_grows h]
    exact h.directory _ hready.directory

theorem steps_fragmentPath (dir : FragmentDirectory) (line : Line) :
    (dir.fragmentPath line).steps = dir.path.steps ++ [.child line.fragmentName] :=
  Path.steps_join dir.path line.isEntryName_fragmentName

/-- A fragment is an entry of the fragment directory. -/
theorem locate?_fragmentPath {loc : Location}
    (h : fs.locate? (dir.fragmentPath line) = some loc) :
    loc = dir.home fs ++ [line.fragmentName] := by
  obtain ⟨-, -, hwalk, -⟩ := FileSystem.locate?_eq_some_iff.1 h
  rw [steps_fragmentPath] at hwalk
  obtain ⟨above, habove, -, -, rfl⟩ := FileSystem.walk?_concat_child.1 hwalk
  rw [home, FileSystem.place_of_walk? habove]

/-! ### Keeping a line -/

/-- The fragment of a line can be written: its name is possible, a path reaches it, the directory is
there, and no directory is in the place of the fragment. -/
structure CanKeep (dir : FragmentDirectory) (fs : FileSystem) (line : Line) : Prop where
  reaches : dir.path.reaches line.fragmentName = true
  slash : (dir.fragmentPath line).endsInSlash = false
  valid : FileSystem.isValidName line.fragmentName = true
  walk : fs.walk? fs.workingDirectory dir.path.steps = some (dir.home fs)
  directory : fs.isDirectoryAt (dir.home fs) = true
  free : fs.isDirectoryAt (dir.home fs ++ [line.fragmentName]) = false

theorem target?_fragmentPath_eq_some_iff {loc : Location} :
    fs.target? (dir.fragmentPath line) = some loc ↔
      dir.CanKeep fs line ∧ loc = dir.home fs ++ [line.fragmentName] := by
  rw [FileSystem.target?_eq_some_iff]
  constructor
  · rintro ⟨husable, hslash, above, name, home, hsteps, hwalk, hdir, hname, hfree, rfl⟩
    -- the last step is to the fragment, so the steps above it are those of the directory
    rw [steps_fragmentPath] at hsteps
    obtain ⟨rfl, hlast⟩ := List.append_inj' hsteps rfl
    obtain rfl := Component.child.inj (List.singleton_inj.1 hlast)
    obtain rfl : dir.home fs = home := FileSystem.place_of_walk? hwalk
    exact ⟨⟨husable, hslash, hname, hwalk, hdir, hfree⟩, rfl⟩
  · rintro ⟨h, rfl⟩
    exact ⟨h.reaches, h.slash, dir.path.steps, line.fragmentName, dir.home fs,
      steps_fragmentPath dir line, h.walk, h.directory, h.valid, h.free, rfl⟩

/-- Writing a fragment puts a file into the directory, which has to be there, and in the place of no
directory. -/
theorem eq_put_of_write? {content : Bytes} (husable : dir.path.isUsable = true)
    (h : fs.write? (dir.fragmentPath line) content = some fs') :
    dir.IsReady fs ∧ fs.isDirectoryAt (dir.home fs ++ [line.fragmentName]) = false ∧
      fs' = fs.put (dir.home fs ++ [line.fragmentName]) (.file content) := by
  obtain ⟨loc, htarget, rfl⟩ := FileSystem.write?_eq_some_iff.1 h
  obtain ⟨hcan, rfl⟩ := target?_fragmentPath_eq_some_iff.1 htarget
  exact ⟨⟨husable, hcan.walk, hcan.directory⟩, hcan.free, rfl⟩

/-- One fragment has the text of a line, and the other files are what they were. -/
structure Keeps (dir : FragmentDirectory) (line : Line) (fs fs' : FileSystem) : Prop where
  grows : fs.Grows fs'
  ready : dir.IsReady fs'
  reaches : dir.path.reaches line.fragmentName = true
  file : ∀ loc content, fs'.entry? loc = some (.file content) ↔
    if loc = dir.home fs ++ [line.fragmentName] then content = utf8Bytes line.text
    else fs.entry? loc = some (.file content)

theorem keeps_of_write? (husable : dir.path.isUsable = true)
    (h : fs.write? (dir.fragmentPath line) (utf8Bytes line.text) = some fs') :
    dir.Keeps line fs fs' := by
  obtain ⟨_, htarget, -⟩ := FileSystem.write?_eq_some_iff.1 h
  have hreaches := (target?_fragmentPath_eq_some_iff.1 htarget).1.reaches
  obtain ⟨hready, hfree, rfl⟩ := eq_put_of_write? husable h
  have hroot : dir.home fs ++ [line.fragmentName] ≠ [] := List.concat_ne_nil _ _
  have hgrows := FileSystem.grows_put_file hroot hfree (utf8Bytes line.text)
  refine ⟨hgrows, hready.of_grows hgrows, hreaches, fun loc content => ?_⟩
  rw [FileSystem.entry?_put hroot]
  split
  · rw [Option.some.injEq, Entry.file.injEq, eq_comm]
  · rfl

theorem ensure_addsDirectories (dir : FragmentDirectory) (fs : FileSystem) :
    fs.AddsDirectories (dir.ensure fs).2 := by
  have hadds := fs.createDirectories_addsDirectories dir.path
  unfold ensure
  split
  · next h => rwa [h] at hadds
  · next h => rwa [h] at hadds

theorem isUsable_of_ensure (h : dir.ensure fs = (.ok (), fs')) : dir.path.isUsable = true := by
  unfold ensure at h
  split at h
  · next hcreate => exact FileSystem.isUsable_of_createDirectories hcreate
  · cases h

/-- A line is kept by creating the directory, if need be, and then writing the fragment. -/
theorem write_eq_ok {p : Path} (h : dir.write line fs = (.ok p, fs')) :
    dir.path.isUsable = true ∧ ∃ mid, fs.AddsDirectories mid ∧
      mid.write? (dir.fragmentPath line) (utf8Bytes line.text) = some fs' := by
  have hadds := dir.ensure_addsDirectories fs
  unfold write at h
  split at h
  · cases h
  · next mid hensure =>
    rw [hensure] at hadds
    split at h
    · next hwrite =>
      obtain ⟨-, rfl⟩ := Prod.mk.inj h
      exact ⟨isUsable_of_ensure hensure, mid, hadds, hwrite⟩
    · cases h

/-- Where a line cannot be kept, no file changes. -/
theorem write_eq_error {failure : Failure} (h : dir.write line fs = (.error failure, fs')) :
    fs.AddsDirectories fs' := by
  have hadds := dir.ensure_addsDirectories fs
  unfold write at h
  split at h
  · next hensure =>
    cases h
    rwa [hensure] at hadds
  · next hensure =>
    rw [hensure] at hadds
    split at h
    · cases h
    · obtain ⟨-, rfl⟩ := Prod.mk.inj h
      exact hadds

/-- A line cannot be kept only where the file system refuses something. -/
theorem exists_io_of_write {failure : Failure} (h : dir.write line fs = (.error failure, fs')) :
    ∃ refused, failure = .io refused := by
  unfold write at h
  split at h
  · next hensure =>
    cases h
    unfold ensure at hensure
    split at hensure
    · cases hensure
    · cases hensure
      exact ⟨_, rfl⟩
  · split at h
    · cases h
    · cases h
      exact ⟨_, rfl⟩

theorem keeps_of_write {p : Path} (h : dir.write line fs = (.ok p, fs')) :
    dir.Keeps line fs fs' := by
  obtain ⟨husable, mid, hadds, hwrite⟩ := write_eq_ok h
  have hkeeps := keeps_of_write? husable hwrite
  refine ⟨hadds.grows.trans hkeeps.grows, hkeeps.ready, hkeeps.reaches, fun loc content => ?_⟩
  rw [hkeeps.file, home_of_grows hadds.grows, hadds.entry?_eq_file_iff]

/-! ### Collecting -/

/-- An order in which the entries of a directory come. -/
structure Enumeration where
  arrange : List (String × Entry) → List (String × Entry)
  perm : ∀ entries, (arrange entries).Perm entries

namespace Enumeration

/-- The order in which the entries are listed. -/
def asListed : Enumeration where
  arrange := id
  perm _ := .refl _

/-- The opposite order. -/
def reversed : Enumeration where
  arrange := List.reverse
  perm := List.reverse_perm

end Enumeration

/-- The lines of a text that are collected. -/
def keptLines (text : String) : List String :=
  (Text.lines text).filter (· ≠ "")

/-- A text without line feeds is collected as it is. -/
theorem keptLines_of_not_mem {text : String} (hne : text ≠ "") (h : '\n' ∉ text.toList) :
    keptLines text = [text] := by
  rw [keptLines, lines_of_not_mem hne h]
  simp [hne]

/-- An entry of a directory that is a file, with its name and its content. -/
def file? : String × Entry → Option (String × Bytes)
  | (_, .directory) => none
  | (name, .file content) => some (name, content)

theorem file?_eq_some_iff {child : String × Entry} {name : String} {content : Bytes} :
    file? child = some (name, content) ↔ child = (name, .file content) := by
  obtain ⟨name', entry⟩ := child
  cases entry with
  | directory => simp [file?]
  | file content' => simp [file?]

/-- The files among some entries of the directory that a path reaches. The others are not read. -/
def readableAmong (dir : FragmentDirectory) (entries : List (String × Entry)) :
    List (String × Bytes) :=
  (entries.filterMap file?).filter fun file => dir.path.reaches file.1

/-- The lines that are collected from a content, if it is a text. -/
def linesOf (content : Bytes) : List String :=
  (ofUtf8Bytes? content).elim [] keptLines

/-- The lines that are collected from files. -/
def linesAmong (files : List (String × Bytes)) : List String :=
  files.flatMap fun file => linesOf file.2

theorem linesAmong_cons (file : String × Bytes) (files : List (String × Bytes)) :
    linesAmong (file :: files) = linesOf file.2 ++ linesAmong files :=
  List.flatMap_cons

/-- The contents of files are texts. -/
def AreTexts (files : List (String × Bytes)) : Prop :=
  ∀ file ∈ files, (ofUtf8Bytes? file.2).isSome = true

instance (files : List (String × Bytes)) : Decidable (AreTexts files) :=
  inferInstanceAs (Decidable (∀ file ∈ files, (ofUtf8Bytes? file.2).isSome = true))

theorem insertLines_eq_insertTexts (set : CommandSet) (text : String) :
    insertLines set text = set.insertTexts (keptLines text) := rfl

theorem readableAmong_cons_of_reaches {name : String} (h : dir.path.reaches name = true)
    (content : Bytes) (rest : List (String × Entry)) :
    dir.readableAmong ((name, .file content) :: rest) =
      (name, content) :: dir.readableAmong rest :=
  List.filter_cons_of_pos h

theorem readableAmong_cons_of_not_reaches {name : String} (h : ¬ dir.path.reaches name = true)
    (content : Bytes) (rest : List (String × Entry)) :
    dir.readableAmong ((name, .file content) :: rest) = dir.readableAmong rest :=
  List.filter_cons_of_neg h

/-- Entries are gathered one after the other, if all files that are read are texts. -/
theorem gather_eq_ok (dir : FragmentDirectory) {entries : List (String × Entry)}
    (h : AreTexts (dir.readableAmong entries)) (set : CommandSet) (count : Nat) :
    dir.gather entries (set, count) =
      .ok (set.insertTexts (linesAmong (dir.readableAmong entries)),
        count + (dir.readableAmong entries).length) := by
  induction entries generalizing set count with
  | nil => rfl
  | cons child rest ih =>
    obtain ⟨name, entry⟩ := child
    cases entry with
    | directory => exact ih h set count
    | file content =>
      rw [gather]
      by_cases hname : dir.path.reaches name = true
      · rw [readableAmong_cons_of_reaches hname] at h ⊢
        obtain ⟨htext, hrest⟩ := List.forall_mem_cons.1 h
        obtain ⟨text, htext⟩ := Option.isSome_iff_exists.1 htext
        rw [if_pos hname, htext]
        dsimp only
        have hlines : linesOf content = keptLines text := by
          rw [linesOf, htext]
          rfl
        rw [ih hrest, insertLines_eq_insertTexts, linesAmong_cons, hlines,
          CommandSet.insertTexts_append, List.length_cons, Nat.add_assoc, Nat.add_comm 1]
      · rw [readableAmong_cons_of_not_reaches hname] at h ⊢
        rw [if_neg hname, ih h]

/-- Entries are gathered up to the first file that is read and is no text. -/
theorem gather_eq_error (dir : FragmentDirectory) {entries : List (String × Entry)}
    (h : ¬ AreTexts (dir.readableAmong entries)) (set : CommandSet) (count : Nat) :
    ∃ file ∈ dir.readableAmong entries, ofUtf8Bytes? file.2 = none ∧
      dir.gather entries (set, count) = .error (.io (dir.path.join ⟨file.1⟩)) := by
  induction entries generalizing set count with
  | nil => exact absurd (List.forall_mem_nil _) h
  | cons child rest ih =>
    obtain ⟨name, entry⟩ := child
    cases entry with
    | directory => exact ih h set count
    | file content =>
      rw [gather]
      by_cases hname : dir.path.reaches name = true
      · rw [readableAmong_cons_of_reaches hname] at h ⊢
        rw [if_pos hname]
        cases htext : ofUtf8Bytes? content with
        | none => exact ⟨(name, content), List.mem_cons_self, htext, rfl⟩
        | some text =>
          have hrest : ¬ AreTexts (dir.readableAmong rest) := fun hrest =>
            h (List.forall_mem_cons.2 ⟨Option.isSome_iff_exists.2 ⟨text, htext⟩, hrest⟩)
          obtain ⟨file, hfile, hbytes, hgather⟩ := ih hrest (insertLines set text) (count + 1)
          exact ⟨file, List.mem_cons_of_mem _ hfile, hbytes, hgather⟩
      · rw [readableAmong_cons_of_not_reaches hname] at h ⊢
        rw [if_neg hname]
        exact ih h set count

/-- The files directly inside the directory, with their names and contents. -/
def files (dir : FragmentDirectory) (fs : FileSystem) : List (String × Bytes) :=
  ((fs.list? dir.path).getD []).filterMap file?

/-- The files directly inside the directory that a path reaches, which are those that are read. -/
def readable (dir : FragmentDirectory) (fs : FileSystem) : List (String × Bytes) :=
  dir.readableAmong ((fs.list? dir.path).getD [])

theorem readable_eq_filter (dir : FragmentDirectory) (fs : FileSystem) :
    dir.readable fs = (dir.files fs).filter fun file => dir.path.reaches file.1 := rfl

theorem mem_files_iff {name : String} {content : Bytes} :
    (name, content) ∈ dir.files fs ↔
      ∃ loc, fs.locate? dir.path = some loc ∧ fs.isDirectoryAt loc = true ∧
        fs.entry? (loc ++ [name]) = some (.file content) := by
  rw [files, List.mem_filterMap]
  simp only [file?_eq_some_iff, exists_eq_right]
  cases hlist : fs.list? dir.path with
  | none =>
    refine iff_of_false List.not_mem_nil fun ⟨loc, hlocate, hdir, _⟩ => ?_
    rw [FileSystem.list?_eq_some_iff.2 ⟨loc, hlocate, hdir, rfl⟩] at hlist
    cases hlist
  | some entries =>
    obtain ⟨loc, hlocate, hdir, rfl⟩ := FileSystem.list?_eq_some_iff.1 hlist
    rw [Option.getD_some, FileSystem.mem_children_iff, hlocate]
    simp only [Option.some.injEq, exists_eq_left', hdir, true_and]

theorem mem_readable_iff {name : String} {content : Bytes} :
    (name, content) ∈ dir.readable fs ↔
      (name, content) ∈ dir.files fs ∧ dir.path.reaches name = true :=
  List.mem_filter

theorem mem_linesAmong_iff {files : List (String × Bytes)} {t : String} :
    t ∈ linesAmong files ↔ ∃ name content, (name, content) ∈ files ∧ t ∈ linesOf content := by
  rw [linesAmong, List.mem_flatMap, Prod.exists]

/-- Collects the entries of a directory in a given order. -/
def collectIn (order : Enumeration) (dir : FragmentDirectory) (fs : FileSystem) :
    Except Failure (CommandSet × Nat) :=
  match fs.list? dir.path with
  | none => .error (.io dir.path)
  | some entries => dir.gather (order.arrange entries) (.empty, 0)

theorem collectIn_asListed : collectIn .asListed = collect := rfl

/-- The files that are read come in another order. -/
theorem readableAmong_arrange_perm (dir : FragmentDirectory) (order : Enumeration)
    (entries : List (String × Entry)) :
    (dir.readableAmong (order.arrange entries)).Perm (dir.readableAmong entries) :=
  ((order.perm entries).filterMap _).filter _

/-- A directory whose files are texts is collected to the set of their lines, in whatever order the
entries come. -/
theorem collectIn_eq_ok (hdir : fs.isDirectory dir.path = true)
    (htexts : AreTexts (dir.readable fs)) (order : Enumeration) :
    dir.collectIn order fs =
      .ok (CommandSet.ofTexts (linesAmong (dir.readable fs)), (dir.readable fs).length) := by
  obtain ⟨entries, hlist⟩ := FileSystem.isDirectory_iff_exists_list?.1 hdir
  rw [readable, hlist, Option.getD_some] at htexts ⊢
  -- the set and the number of the files do not show the order
  have hperm := dir.readableAmong_arrange_perm order entries
  have htexts' : AreTexts (dir.readableAmong (order.arrange entries)) :=
    fun file hfile => htexts file (hperm.mem_iff.1 hfile)
  have hset : CommandSet.empty.insertTexts
        (linesAmong (dir.readableAmong (order.arrange entries))) =
      CommandSet.ofTexts (linesAmong (dir.readableAmong entries)) :=
    CommandSet.insertTexts_perm _ (hperm.flatMap_right _)
  rw [collectIn, hlist]
  dsimp only
  rw [dir.gather_eq_ok htexts', hset, hperm.length_eq, Nat.zero_add]

/-- A directory in which a file is no text is not collected, and such a file is told. -/
theorem collectIn_eq_error (hdir : fs.isDirectory dir.path = true)
    (htexts : ¬ AreTexts (dir.readable fs)) (order : Enumeration) :
    ∃ file ∈ dir.readable fs, ofUtf8Bytes? file.2 = none ∧
      dir.collectIn order fs = .error (.io (dir.path.join ⟨file.1⟩)) := by
  obtain ⟨entries, hlist⟩ := FileSystem.isDirectory_iff_exists_list?.1 hdir
  rw [readable, hlist, Option.getD_some] at htexts ⊢
  have hperm := dir.readableAmong_arrange_perm order entries
  have htexts' : ¬ AreTexts (dir.readableAmong (order.arrange entries)) := fun h =>
    htexts fun file hfile => h file (hperm.mem_iff.2 hfile)
  obtain ⟨file, hfile, hbytes, hgather⟩ := dir.gather_eq_error htexts' .empty 0
  refine ⟨file, hperm.mem_iff.1 hfile, hbytes, ?_⟩
  rw [collectIn, hlist]
  exact hgather

/-- The files of a directory that is there. -/
theorem IsReady.mem_files_iff (hpath : dir.path.text ≠ "") (hready : dir.IsReady fs) {name : String}
    {content : Bytes} :
    (name, content) ∈ dir.files fs ↔
      fs.entry? (dir.home fs ++ [name]) = some (.file content) := by
  have hlocate : fs.locate? dir.path = some (dir.home fs) := FileSystem.locate?_eq_some_iff.2
    ⟨hpath, hready.usable, hready.walk, fun _ => hready.directory⟩
  rw [FragmentDirectory.mem_files_iff, hlocate]
  simp only [Option.some.injEq, exists_eq_left', hready.directory, true_and]

theorem IsReady.isDirectory (hpath : dir.path.text ≠ "") (hready : dir.IsReady fs) :
    fs.isDirectory dir.path = true :=
  FileSystem.isDirectory_iff.2 ⟨_, FileSystem.locate?_eq_some_iff.2
    ⟨hpath, hready.usable, hready.walk, fun _ => hready.directory⟩, hready.directory⟩

/-! ### Reading a line back -/

/-- The fragment of a line is there and has its text. -/
def Holds (dir : FragmentDirectory) (fs : FileSystem) (line : Line) : Prop :=
  fs.read? (dir.fragmentPath line) = some (utf8Bytes line.text)

instance (dir : FragmentDirectory) (fs : FileSystem) (line : Line) :
    Decidable (dir.Holds fs line) :=
  inferInstanceAs (Decidable (fs.read? (dir.fragmentPath line) = some (utf8Bytes line.text)))

/-- Lines other than `quiet` that read the same have one fragment. -/
theorem holds_congr {other : Line} (hquiet : line.isQuiet = false) (htext : line.text = other.text)
    (fs : FileSystem) : dir.Holds fs line ↔ dir.Holds fs other := by
  rw [Holds, Holds, fragmentPath, fragmentPath, Line.fragmentName_of_text_eq hquiet htext, htext]

theorem holds_of_write {p : Path} (h : dir.write line fs = (.ok p, fs')) : dir.Holds fs' line := by
  obtain ⟨-, mid, -, hwrite⟩ := write_eq_ok h
  exact FileSystem.read?_of_write? hwrite

/-- Lines stay in their fragments while lines of other names are kept, or cannot be kept. -/
theorem Holds.of_write {other : Line} {result : Except Failure Path} (hholds : dir.Holds fs other)
    (h : dir.write line fs = (result, fs')) (hname : other.fragmentName ≠ line.fragmentName) :
    dir.Holds fs' other := by
  cases result with
  | ok p =>
    have hkeeps := keeps_of_write h
    refine hkeeps.grows.read? hholds fun loc hlocate hfile => ?_
    rw [hkeeps.file, if_neg, hfile]
    rw [locate?_fragmentPath hlocate]
    exact fun e => hname (List.singleton_inj.1 (List.append_cancel_left e))
  | error failure =>
    have hadds := write_eq_error h
    exact hadds.grows.read? hholds fun loc _ hfile => hadds.entry?_eq_file_iff.2 hfile

end FragmentDirectory

end CompilerHints
