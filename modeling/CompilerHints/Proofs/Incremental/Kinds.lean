import CompilerHints.Proofs.Incremental.Attempts
import CompilerHints.Proofs.Incremental.Rebuild

/-!
# Kinds of fragments

A fragment name begins with the keyword of its line, and a text other than `quiet` tells the keyword
and all that the name is made of. So a fragment gives way only to lines of its own keyword, and a
line need not be kept again whose text was accepted before.

* `Line.Tells`: what names and texts tell of two lines.
* `Units.attemptAll`, `Units.files_attemptAll`: units that go on after failures.
* `Units.coversNames_toKeepAll`: the lines that are not kept.
* `FragmentDirectory.RespectsKinds`: which fragments give way.
* `FragmentDirectory.LeavesOutNothing`: which fragments are there in the end.
* `Units.respects_kinds_and_texts`: all of this of units on one directory.
-/

namespace CompilerHints

open Text

/-! ### Two lines -/

/-- What fragment names and texts tell of two lines. -/
structure Line.Tells (a b : Line) : Prop where
  /-- Only lines of one keyword share a name. -/
  keyword : a.fragmentName = b.fragmentName → a.directive.keyword = b.directive.keyword
  /-- A text other than `quiet` tells the keyword and the descriptor, and nothing else. -/
  text_iff : a.isQuiet = false → b.isQuiet = false →
    (a.text = b.text ↔ a.directive.keyword = b.directive.keyword ∧ a.descriptor = b.descriptor)
  /-- So lines of one text share a name. -/
  fragmentName : a.isQuiet = false → b.isQuiet = false → a.text = b.text →
    a.fragmentName = b.fragmentName

theorem Line.tells (a b : Line) : a.Tells b where
  keyword := keyword_of_fragmentName_eq
  text_iff ha hb := text_eq_iff ha hb
  fragmentName ha _ := fragmentName_of_text_eq ha

/-! ### Units that go on after failures -/

/-- A collector tries to keep what is to be kept, whether or not it can. -/
theorem Collector.files_accept {c : Collector} {dir : FragmentDirectory}
    (hdir : c.fragments? = some dir) (line : Line) (fs : FileSystem) :
    (c.accept line fs).2.2 = dir.tryAll fs (c.commands.toKeep line) := by
  rcases haccept : c.accept line fs with ⟨result, d, mid⟩
  obtain ⟨-, ⟨hquiet, hold, -, rfl⟩ | ⟨hfresh, hwritten⟩⟩ := accept_incremental hdir haccept
  · rw [CommandSet.toKeep, if_pos ⟨hquiet, hold⟩]
    rfl
  · rw [CommandSet.toKeep, if_neg (not_and.2 hfresh)]
    rcases hwritten with ⟨p, _, hwrite, -⟩ | ⟨failure, hwrite, -⟩
    · exact (congrArg Prod.snd hwrite).symm
    · exact (congrArg Prod.snd hwrite).symm

namespace Units

variable {ι : Type} [DecidableEq ι] {dir : FragmentDirectory} {u : Units ι} {i : ι}
  {calls : List (ι × Line)}

/-- Lets a unit try to accept a line. After a failure the unit knows the line all the same. -/
def attempt (u : Units ι) (i : ι) (line : Line) : Units ι where
  collectors := Function.update u.collectors i ((u.collectors i).accept line u.files).2.1
  files := ((u.collectors i).accept line u.files).2.2

/-- Lets units try to accept lines one after the other, also after failures. -/
def attemptAll (u : Units ι) : List (ι × Line) → Units ι
  | [] => u
  | (i, line) :: rest => (u.attempt i line).attemptAll rest

theorem collectors_attempt (u : Units ι) (i : ι) (line : Line) :
    (u.attempt i line).collectors =
      Function.update u.collectors i ((u.collectors i).record [line]) := by
  rw [attempt, Collector.collector_accept]

theorem fragments?_attemptAll (u : Units ι) (calls : List (ι × Line)) (i : ι) :
    ((u.attemptAll calls).collectors i).fragments? = (u.collectors i).fragments? := by
  induction calls generalizing u with
  | nil => rfl
  | cons call rest ih =>
    obtain ⟨j, line⟩ := call
    rw [attemptAll, ih, collectors_attempt, fragments?_update]

/-- Units try to keep the lines that are to be kept, and nothing else matters for the files. -/
theorem files_attemptAll (hdir : ∀ i, (u.collectors i).fragments? = some dir)
    (calls : List (ι × Line)) :
    (u.attemptAll calls).files =
      dir.tryAll u.files (toKeepAll (fun i => (u.collectors i).commands) calls) := by
  induction calls generalizing u with
  | nil => rfl
  | cons call rest ih =>
    obtain ⟨i, line⟩ := call
    have hdir' (j : ι) : ((u.attempt i line).collectors j).fragments? = some dir := by
      rw [collectors_attempt, fragments?_update, hdir]
    rw [attemptAll, ih hdir', collectors_attempt, commands_update, toKeepAll,
      FragmentDirectory.tryAll_append, ← Collector.files_accept (hdir i)]
    rfl

/-- Units change nothing but fragments of lines that they are to accept. -/
theorem changesOnly_attemptAll (hdir : ∀ i, (u.collectors i).fragments? = some dir)
    (calls : List (ι × Line)) :
    dir.ChangesOnly (calls.map Prod.snd) u.files (u.attemptAll calls).files := by
  rw [files_attemptAll hdir]
  apply (dir.changesOnly_tryAll u.files _).mono
  intro line hline
  exact mem_of_mem_toKeepAll hline

/-- Units that knew nothing leave out no name. -/
theorem coversNames_toKeepAll (calls : List (ι × Line)) :
    FragmentDirectory.CoversNames (toKeepAll (fun _ : ι => CommandSet.empty) calls)
      (calls.map Prod.snd) where
  mem line hline := mem_of_mem_toKeepAll hline
  name line hline := by
    obtain ⟨⟨i, line⟩, hcall, rfl⟩ := List.mem_map.1 hline
    rcases exists_mem_toKeepAll (fun _ => CommandSet.empty) hcall with ⟨-, hknown⟩ | hkept
    · simp [CommandSet.empty] at hknown
    · exact hkept

/-- A unit knows what it knew and the texts of its own lines. -/
theorem mem_lines_attemptAll {t : String}
    (h : t ∈ ((u.attemptAll calls).collectors i).commands.lines) :
    t ∈ (u.collectors i).commands.lines ∨ ∃ line, (i, line) ∈ calls ∧ line.text = t := by
  induction calls generalizing u with
  | nil => exact .inl h
  | cons call rest ih =>
    obtain ⟨j, first⟩ := call
    rcases ih h with hknown | ⟨line, hline, htext⟩
    · rw [collectors_attempt, Function.update_apply] at hknown
      split at hknown
      · next e =>
        subst e
        rcases Collector.mem_lines_record.1 hknown with hknown | ⟨htext, -⟩
        · exact .inl hknown
        · exact .inr ⟨first, List.mem_cons_self, (List.mem_singleton.1 htext).symm⟩
      · exact .inl hknown
    · exact .inr ⟨line, List.mem_cons_of_mem _ hline, htext⟩

end Units

/-! ### What becomes of fragments -/

namespace FragmentDirectory

variable {dir : FragmentDirectory} {fs fs' : FileSystem} {lines kept : List Line}

/-- What becomes of the fragments that are there while lines are kept. -/
structure RespectsKinds (dir : FragmentDirectory) (lines : List Line) (fs fs' : FileSystem) :
    Prop where
  /-- A fragment gives way only to lines of the same name, and so of the same keyword. -/
  overwritten : ∀ line content, fs.read? (dir.fragmentPath line) = some content →
    fs'.read? (dir.fragmentPath line) = some content ∨
      ∃ other ∈ lines, other.fragmentName = line.fragmentName ∧
        other.directive.keyword = line.directive.keyword ∧
        fs'.read? (dir.fragmentPath line) = some (utf8Bytes other.text)
  /-- In the place of a `quiet` nothing is written but `quiet`. -/
  quiet : ∀ line content, line.isQuiet = true →
    fs.read? (dir.fragmentPath line) = some content →
      fs'.read? (dir.fragmentPath line) = some content ∨
        fs'.read? (dir.fragmentPath line) = some (utf8Bytes quietText)

theorem ChangesOnly.respectsKinds (h : dir.ChangesOnly lines fs fs') :
    dir.RespectsKinds lines fs fs' where
  overwritten line content hread := by
    rcases h.read?_fragmentPath hread with hsame | ⟨other, hother, hname, hlater⟩
    · exact .inl hsame
    · exact .inr ⟨other, hother, hname, Line.keyword_of_fragmentName_eq hname, hlater⟩
  quiet line content hquiet hread := by
    rcases h.read?_fragmentPath hread with hsame | ⟨other, -, hname, hlater⟩
    · exact .inl hsame
    · rw [← Line.isQuiet_eq_of_fragmentName_eq hname] at hquiet
      rw [Line.text_of_isQuiet hquiet] at hlater
      exact .inr hlater

/-- What is there after lines of which some need not be kept: the same fragments as if each of them
had been tried. -/
structure LeavesOutNothing (dir : FragmentDirectory) (lines : List Line) (fs fs' : FileSystem) :
    Prop where
  /-- Only the texts may differ where lines share a name. -/
  sameButShared : SameButShared lines fs' (dir.tryAll fs lines)
  eq_tryAll : NamesTellTexts lines → fs' = dir.tryAll fs lines

theorem CoversNames.leavesOutNothing (h : CoversNames kept lines) (dir : FragmentDirectory)
    (fs : FileSystem) : dir.LeavesOutNothing lines fs (dir.tryAll fs kept) where
  sameButShared := h.sameButShared dir fs
  eq_tryAll htexts := h.tryAll_eq htexts dir fs

end FragmentDirectory

namespace Units

variable {ι : Type} [DecidableEq ι] {dir : FragmentDirectory} {u : Units ι}

/-- A unit tries to keep a line, or it passes the line over because it knows the text. -/
theorem files_attempt (hdir : ∀ i, (u.collectors i).fragments? = some dir) (i : ι) (line : Line) :
    (u.attempt i line).files = (dir.write line u.files).2 ∨
      (u.attempt i line).files = u.files ∧ line.isQuiet = false ∧
        line.text ∈ (u.collectors i).commands.lines := by
  rw [attempt, Collector.files_accept (hdir i), CommandSet.toKeep]
  split
  · next hknown => exact .inr ⟨rfl, hknown⟩
  · exact .inl rfl

/-- Fragment names tell keywords, and texts tell keywords and descriptors. So, after units on one
directory took lines, and whatever became of the files since: fragments give way only to lines of
their own keyword, and a line is passed over only if its unit took one before that has the same text
and the same fragment. As long as nothing else changes the files, no fragment is left out, whatever
fails. -/
theorem respects_kinds_and_texts (dir : FragmentDirectory) (before fs : FileSystem)
    (calls more : List (ι × Line)) :
    let taken := (start ι dir before).attemptAll calls
    let u : Units ι := { taken with files := fs }
    (∀ a b : Line, a.Tells b) ∧
      dir.RespectsKinds (more.map Prod.snd) fs (u.attemptAll more).files ∧
      (∀ i line, (u.attempt i line).files = (dir.write line fs).2 ∨
        (u.attempt i line).files = fs ∧ ∃ other, (i, other) ∈ calls ∧
          other.text = line.text ∧ other.fragmentName = line.fragmentName) ∧
      dir.LeavesOutNothing (calls.map Prod.snd) before taken.files := by
  intro taken u
  have hdir (i : ι) : (u.collectors i).fragments? = some dir := fragments?_attemptAll _ calls i
  refine ⟨Line.tells, (changesOnly_attemptAll hdir more).respectsKinds, fun i line => ?_, ?_⟩
  · rcases files_attempt hdir i line with hwrite | ⟨hsame, hquiet, hknown⟩
    · exact .inl hwrite
    · rcases mem_lines_attemptAll hknown with hstart | ⟨other, hother, htext⟩
      · simp [start, Collector.incremental, CommandSet.empty] at hstart
      · have hname := Line.fragmentName_of_text_eq hquiet htext.symm
        exact .inr ⟨hsame, other, hother, htext, hname.symm⟩
  · have hfiles : taken.files =
        dir.tryAll before (toKeepAll (fun _ : ι => CommandSet.empty) calls) :=
      files_attemptAll (fun _ => rfl) calls
    rw [hfiles]
    exact (coversNames_toKeepAll calls).leavesOutNothing dir before

/-- Two options share a name. When the first comes again it is passed over, and the fragment goes on
to hold the second. -/
example :
    let dir : FragmentDirectory := ⟨⟨"f"⟩⟩
    let fs : FileSystem := .inDirectory []
    let a : Line := .member { owner := "a", name := "m" } (.option "a b")
    let b : Line := .member { owner := "a", name := "m" } (.option "a20b")
    let u := (start Unit dir fs).attemptAll [((), a), ((), b), ((), a)]
    u.files.read? (dir.fragmentPath a) = some (utf8Bytes b.text) ∧
      (dir.tryAll fs [a, b, a]).read? (dir.fragmentPath a) = some (utf8Bytes a.text) := by
  decide +kernel

end Units

end CompilerHints
