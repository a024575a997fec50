import CompilerHints.Proofs.FragmentDirectory

/-!
# Lines in a fragment directory

When lines were kept one after the other in a directory that had no files, the files are fragments
of these lines. A later line overwrites an earlier one of the same name, so collecting gives all
texts back exactly if no two of them have one name.

* `Stores`: what the files have to do with the lines that were kept.
* `Stores.keep`, `Stores.passOver`: keeping one more line, and not keeping a text again.
* `Stores.collect_eq_ok`: the texts that are collected.
* `Stores.survives_iff_namesTellTexts`: when no text is lost.
* `Stores.quiet_eq`, `Stores.mem_lines_of_mem`, `Stores.ofTexts_eq_iff`: the set that is collected
  beside the set of all lines.
-/

namespace CompilerHints

open Text

variable {dir : FragmentDirectory} {fs fs' : FileSystem} {lines : List Line} {line : Line}

/-- What the files have to do with the lines that were kept: every line has a fragment by its
name, which a path reaches, and every file is the fragment of a line. -/
structure Stores (dir : FragmentDirectory) (fs : FileSystem) (lines : List Line) : Prop where
  ready : lines ≠ [] → dir.IsReady fs
  reaches : ∀ line ∈ lines, dir.path.reaches line.fragmentName = true
  kept : ∀ line ∈ lines, ∃ content,
    fs.entry? (dir.home fs ++ [line.fragmentName]) = some (.file content)
  files : ∀ name content, fs.entry? (dir.home fs ++ [name]) = some (.file content) →
    ∃ line ∈ lines, name = line.fragmentName ∧ content = utf8Bytes line.text

namespace Stores

theorem nil (h : dir.HasNoFile fs) : Stores dir fs [] where
  ready h := absurd rfl h
  reaches _ h := by cases h
  kept _ h := by cases h
  files name content hfile := absurd hfile (h name content)

/-- One more line is kept. -/
theorem keep (h : Stores dir fs lines) (hkeeps : dir.Keeps line fs fs') :
    Stores dir fs' (lines ++ [line]) where
  ready _ := hkeeps.ready
  reaches := by
    rw [List.forall_mem_append, List.forall_mem_singleton]
    exact ⟨h.reaches, hkeeps.reaches⟩
  kept other hother := by
    rw [FragmentDirectory.home_of_grows hkeeps.grows]
    by_cases hname : other.fragmentName = line.fragmentName
    · -- its fragment was overwritten, or is the new one
      refine ⟨utf8Bytes line.text, (hkeeps.file _ _).2 ?_⟩
      rw [hname, if_pos rfl]
    · have hne : dir.home fs ++ [other.fragmentName] ≠ dir.home fs ++ [line.fragmentName] :=
        fun e => hname (List.singleton_inj.1 (List.append_cancel_left e))
      have hmem : other ∈ lines := by
        rcases List.mem_append.1 hother with hmem | hmem
        · exact hmem
        · exact absurd (by rw [List.mem_singleton.1 hmem]) hname
      obtain ⟨content, hfile⟩ := h.kept other hmem
      refine ⟨content, (hkeeps.file _ _).2 ?_⟩
      rwa [if_neg hne]
  files name content hfile := by
    rw [FragmentDirectory.home_of_grows hkeeps.grows, hkeeps.file] at hfile
    split at hfile
    · next e =>
      have hname : name = line.fragmentName := List.singleton_inj.1 (List.append_cancel_left e)
      exact ⟨line, List.mem_append_right _ List.mem_cons_self, hname, hfile⟩
    · obtain ⟨other, hother, hfile⟩ := h.files name content hfile
      exact ⟨other, List.mem_append_left _ hother, hfile⟩

/-- A line need not be kept if one of the same text was. -/
theorem passOver (h : Stores dir fs lines) (hquiet : line.isQuiet = false)
    (hold : ∃ other ∈ lines, other.text = line.text) : Stores dir fs (lines ++ [line]) := by
  obtain ⟨other, hother, htext⟩ := hold
  refine ⟨fun _ => h.ready (List.ne_nil_of_mem hother), ?_, ?_, fun name content hfile => ?_⟩
  · rw [List.forall_mem_append, List.forall_mem_singleton,
      Line.fragmentName_of_text_eq hquiet htext.symm]
    exact ⟨h.reaches, h.reaches other hother⟩
  · rw [List.forall_mem_append, List.forall_mem_singleton,
      Line.fragmentName_of_text_eq hquiet htext.symm]
    exact ⟨h.kept, h.kept other hother⟩
  · obtain ⟨kept, hkept, hfile⟩ := h.files name content hfile
    exact ⟨kept, List.mem_append_left _ hkept, hfile⟩

/-! ### Collecting -/

/-- A text is in one of the fragments. -/
def Survives (dir : FragmentDirectory) (fs : FileSystem) (lines : List Line) (text : String) :
    Prop :=
  ∃ line ∈ lines, line.text = text ∧
    fs.entry? (dir.home fs ++ [line.fragmentName]) = some (.file (utf8Bytes text))

/-- The texts that are collected are those in the fragments, if each of them is on one line. -/
theorem collect_eq_ok (h : Stores dir fs lines) (hpath : dir.path.text ≠ "") (hne : lines ≠ [])
    (hlines : ∀ line ∈ lines, '\n' ∉ line.text.toList) :
    ∃ texts count, dir.collect fs = .ok (CommandSet.ofTexts texts, count) ∧
      ∀ t, t ∈ texts ↔ Survives dir fs lines t := by
  have hmem (name : String) (content : Bytes) :
      (name, content) ∈ dir.readable fs ↔
        fs.entry? (dir.home fs ++ [name]) = some (.file content) := by
    rw [FragmentDirectory.mem_readable_iff, (h.ready hne).mem_files_iff hpath, and_iff_left_iff_imp]
    intro hfile
    obtain ⟨line, hline, rfl, -⟩ := h.files name content hfile
    exact h.reaches line hline
  have hkept (line : Line) (hline : line ∈ lines) :
      FragmentDirectory.linesOf (utf8Bytes line.text) = [line.text] := by
    rw [FragmentDirectory.linesOf, ofUtf8Bytes?_utf8Bytes]
    exact FragmentDirectory.keptLines_of_not_mem line.text_ne_empty (hlines line hline)
  have htexts : FragmentDirectory.AreTexts (dir.readable fs) := by
    rintro ⟨name, content⟩ hfile
    obtain ⟨line, -, -, rfl⟩ := h.files name content ((hmem name content).1 hfile)
    rw [ofUtf8Bytes?_utf8Bytes]
    rfl
  refine ⟨_, _,
    FragmentDirectory.collectIn_eq_ok ((h.ready hne).isDirectory hpath) htexts .asListed,
    fun t => ?_⟩
  simp only [FragmentDirectory.mem_linesAmong_iff, hmem]
  constructor
  · rintro ⟨name, content, hentry, ht⟩
    obtain ⟨line, hline, rfl, rfl⟩ := h.files name content hentry
    rw [hkept line hline, List.mem_singleton] at ht
    exact ⟨line, hline, ht.symm, by rw [hentry, ht]⟩
  · rintro ⟨line, hline, rfl, hentry⟩
    exact ⟨_, _, hentry, by rw [hkept line hline]; exact List.mem_cons_self⟩

/-- If `quiet` was kept, it is in a fragment: only a `quiet` is kept under the same name. -/
theorem survives_quietText (h : Stores dir fs lines) (hline : line ∈ lines)
    (hquiet : line.text = quietText) : Survives dir fs lines quietText := by
  obtain ⟨content, hentry⟩ := h.kept line hline
  obtain ⟨other, hother, hname, rfl⟩ := h.files _ content hentry
  have hquiet' : other.text = quietText := by
    rw [Line.text_eq_quietText_iff] at hquiet ⊢
    rw [← Line.isQuiet_eq_of_fragmentName_eq hname, hquiet]
  exact ⟨other, hother, hquiet', by rw [← hname, hentry, hquiet']⟩

/-- No text is lost exactly if no two of them are kept under one name. -/
theorem survives_iff_namesTellTexts (h : Stores dir fs lines) :
    (∀ line ∈ lines, Survives dir fs lines line.text) ↔ NamesTellTexts lines := by
  constructor
  · intro hall a ha b hb hname
    cases hquiet : a.isQuiet with
    | true =>
      rw [Line.text_of_isQuiet hquiet, Line.text_of_isQuiet]
      rw [← Line.isQuiet_eq_of_fragmentName_eq hname, hquiet]
    | false =>
      -- both fragments are one file, so both texts are what it holds
      have hquiet' : b.isQuiet = false := by
        rw [← Line.isQuiet_eq_of_fragmentName_eq hname, hquiet]
      obtain ⟨a', -, htext, hentry⟩ := hall a ha
      obtain ⟨b', -, htext', hentry'⟩ := hall b hb
      rw [← Line.fragmentName_of_text_eq hquiet htext.symm] at hentry
      rw [← Line.fragmentName_of_text_eq hquiet' htext'.symm, ← hname, hentry] at hentry'
      exact utf8Bytes_injective (Entry.file.inj (Option.some.inj hentry'))
  · intro hnames line hline
    -- whatever line wrote the fragment last has the same name, and so the same text
    obtain ⟨content, hentry⟩ := h.kept line hline
    obtain ⟨other, hother, hname, rfl⟩ := h.files _ content hentry
    exact ⟨line, hline, rfl, by rw [hentry, hnames line hline other hother hname]⟩

/-! ### Comparing -/

variable {texts all : List String}

/-- The set that is collected and the set of all lines agree on `quiet`. -/
theorem quiet_eq (h : Stores dir fs lines) (htexts : ∀ t, t ∈ texts ↔ Survives dir fs lines t)
    (hall : ∀ t, t ∈ all ↔ ∃ line ∈ lines, line.text = t) :
    (CommandSet.ofTexts texts).quiet = (CommandSet.ofTexts all).quiet := by
  rw [Bool.eq_iff_iff, CommandSet.quiet_ofTexts, CommandSet.quiet_ofTexts, htexts, hall]
  constructor
  · rintro ⟨line, hline, htext, -⟩
    exact ⟨line, hline, htext⟩
  · rintro ⟨line, hline, htext⟩
    exact h.survives_quietText hline htext

/-- Nothing is collected but lines that were kept. -/
theorem mem_lines_of_mem (htexts : ∀ t, t ∈ texts ↔ Survives dir fs lines t)
    (hall : ∀ t, t ∈ all ↔ ∃ line ∈ lines, line.text = t) {t : String}
    (ht : t ∈ (CommandSet.ofTexts texts).lines) : t ∈ (CommandSet.ofTexts all).lines := by
  rw [CommandSet.mem_lines_ofTexts, htexts] at ht
  obtain ⟨⟨line, hline, htext, -⟩, hne⟩ := ht
  rw [CommandSet.mem_lines_ofTexts, hall]
  exact ⟨⟨line, hline, htext⟩, hne⟩

/-- The two sets are equal exactly if no two texts are kept under one name. -/
theorem ofTexts_eq_iff (h : Stores dir fs lines) (htexts : ∀ t, t ∈ texts ↔ Survives dir fs lines t)
    (hall : ∀ t, t ∈ all ↔ ∃ line ∈ lines, line.text = t) :
    CommandSet.ofTexts texts = CommandSet.ofTexts all ↔ NamesTellTexts lines := by
  rw [CommandSet.ofTexts_eq_iff, ← h.survives_iff_namesTellTexts]
  constructor
  · intro hsame line hline
    rw [← htexts, hsame, hall]
    exact ⟨line, hline, rfl⟩
  · intro hsurvive t
    rw [htexts, hall]
    constructor
    · rintro ⟨line, hline, htext, -⟩
      exact ⟨line, hline, htext⟩
    · rintro ⟨line, hline, rfl⟩
      exact hsurvive line hline

end Stores

end CompilerHints
