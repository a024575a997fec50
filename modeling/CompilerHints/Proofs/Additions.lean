import CompilerHints.Proofs.CommandSet

/-!
# Command sets that came about by additions

Rendered lines, texts that were read back and requests for `quiet` are added to a command set in any
mixture. Whatever is added, one text is added, and the artifact has the texts that were added and
nothing else: `quiet` first, then the others in ascending byte order.

* `Addition`, `CommandSet.addAll`: additions to a command set, one after the other.
* `CommandSet.IsProper`, `CommandSet.IsProper.addAll`: `quiet` never becomes a line of its own.
* `CommandSet.Lists`, `CommandSet.lists_addAll`: the order of the lines in an artifact.
* `CommandSet.IsSetOf`, `CommandSet.isSetOf_addAll`: what holds after any additions.
-/

namespace CompilerHints

open Text

namespace Text

theorem compare_eq_lt_iff {a b : Bytes} : compare a b = .lt ↔ a < b := by
  show List.compareLex compare a b = .lt ↔ a < b
  induction a generalizing b with
  | nil => cases b <;> simp [List.compareLex_nil_cons, List.compareLex_nil_nil]
  | cons x a ih =>
    cases b with
    | nil => simp [List.compareLex_cons_nil]
    | cons y b =>
      rw [List.compareLex_cons_cons, Ordering.then_eq_lt, ih, List.cons_lt_cons_iff,
        Std.compare_eq_lt, Std.LawfulEqCmp.compare_eq_iff_eq]

end Text

/-- One addition to a command set. -/
inductive Addition where
  /-- A rendered line. -/
  | line (line : Line)
  /-- A text that was read back from a fragment. -/
  | text (text : String)
  /-- A request for `quiet`. -/
  | quiet
deriving DecidableEq, Repr

/-- The text that is added. -/
def Addition.added : Addition → String
  | .line rendered => rendered.text
  | .text read => read
  | .quiet => quietText

namespace CommandSet

/-- Makes an addition; the answer is whether it is new. -/
def add (s : CommandSet) : Addition → Bool × CommandSet
  | .line line => s.insert line
  | .text text => s.insertText text
  | .quiet => s.markQuiet

/-- Makes additions one after the other. -/
def addAll (s : CommandSet) (additions : List Addition) : CommandSet :=
  additions.foldl (fun s a => (s.add a).2) s

/-- In all three ways a text is added. -/
theorem add_eq_insertText (s : CommandSet) (a : Addition) : s.add a = s.insertText a.added := by
  cases a with
  | line line => exact insert_eq_insertText s line
  | text text => rfl
  | quiet => exact (if_pos rfl).symm

theorem addAll_eq_insertTexts (s : CommandSet) (additions : List Addition) :
    s.addAll additions = s.insertTexts (additions.map Addition.added) := by
  induction additions generalizing s with
  | nil => rfl
  | cons a rest ih =>
    rw [List.map_cons, insertTexts_cons, ← add_eq_insertText]
    exact ih _

/-! ### One addition -/

/-- The text `quiet` is held as a flag and not as a line. -/
def IsProper (s : CommandSet) : Prop :=
  quietText ∉ s.lines

theorem isProper_empty : empty.IsProper :=
  Std.ExtTreeSet.not_mem_empty

theorem IsProper.add {s : CommandSet} (h : s.IsProper) (a : Addition) : (s.add a).2.IsProper := by
  rw [add_eq_insertText, IsProper, mem_lines_insertText]
  rintro (hold | ⟨-, hne⟩)
  · exact h hold
  · exact hne rfl

theorem mem_finalize_insertText {s : CommandSet} {text t : String} :
    t ∈ (s.insertText text).2.finalize ↔ t ∈ s.finalize ∨ t = text := by
  rw [mem_finalize_iff, mem_finalize_iff, mem_lines_insertText, quiet_insertText]
  by_cases ht : t = quietText
  · subst ht
    simp only [ne_eq, not_true_eq_false, and_false, or_false, and_true, or_assoc,
      eq_comm (a := text)]
  · simp [ht]

/-- A text is new exactly if the artifact lacks it. -/
theorem IsProper.insertText_fst_iff {s : CommandSet} (h : s.IsProper) (text : String) :
    (s.insertText text).1 = true ↔ text ∉ s.finalize := by
  rw [mem_finalize_iff]
  by_cases htext : text = quietText
  · subst htext
    have hlines : quietText ∉ s.lines := h
    simp [CommandSet.insertText, markQuiet, hlines]
  · rw [← Bool.not_eq_false, insertText_fst_eq_false_iff htext]
    simp [htext]

/-- A text that the artifact has is added without effect. -/
theorem IsProper.insertText_snd_eq_self {s : CommandSet} (h : s.IsProper) {text : String}
    (htext : text ∈ s.finalize) : (s.insertText text).2 = s := by
  rw [mem_finalize_iff] at htext
  refine ext ?_ fun t => ?_
  · rw [Bool.eq_iff_iff, quiet_insertText]
    refine ⟨fun hq => hq.elim id fun e => ?_, .inl⟩
    exact htext.elim (fun hmem => absurd (e ▸ hmem) h) And.left
  · rw [mem_lines_insertText]
    refine ⟨fun ht => ht.elim id fun ⟨e, hne⟩ => ?_, .inl⟩
    exact htext.elim (fun hmem => e ▸ hmem) fun hq => absurd (e.trans hq.2) hne

/-- The answer is whether the artifact changes. -/
theorem IsProper.insertText_fst_iff_changes {s : CommandSet} (h : s.IsProper) (text : String) :
    (s.insertText text).1 = true ↔ (s.insertText text).2.finalize ≠ s.finalize := by
  rw [h.insertText_fst_iff]
  constructor
  · intro hnew hsame
    rw [← hsame] at hnew
    exact hnew (mem_finalize_insertText.2 (.inr rfl))
  · intro hchanged hold
    exact hchanged (by rw [h.insertText_snd_eq_self hold])

/-! ### Artifacts -/

/-- The lines of an artifact are given texts: each of them once, `quiet` first, and the others in
ascending order of their bytes. -/
structure Lists (texts lines : List String) : Prop where
  mem : ∀ t, t ∈ lines ↔ t ∈ texts
  nodup : lines.Nodup
  quiet : ∀ i : Nat, lines[i]? = some quietText → i = 0
  ascending : (lines.filter (· ≠ quietText)).Pairwise fun a b => utf8Bytes a < utf8Bytes b

theorem pairwise_toList_lines (s : CommandSet) :
    s.lines.toList.Pairwise fun a b => utf8Bytes a < utf8Bytes b := by
  have hordered := Std.ExtTreeSet.ordered_toList (t := s.lines)
  exact hordered.imp fun h => compare_eq_lt_iff.1 h

/-- The lines other than `quiet`, in the order in which they are held. -/
theorem IsProper.filter_finalize {s : CommandSet} (h : s.IsProper) :
    s.finalize.filter (· ≠ quietText) = s.lines.toList := by
  have hlines : s.lines.toList.filter (· ≠ quietText) = s.lines.toList := by
    refine List.filter_eq_self.2 fun t ht => decide_eq_true fun e => h ?_
    rw [← e]
    exact Std.ExtTreeSet.mem_toList.1 ht
  unfold finalize
  split
  · rw [List.filter_cons_of_neg (by simp), hlines]
  · exact hlines

/-- `quiet` comes first, if it comes at all. -/
theorem IsProper.eq_zero_of_getElem?_finalize {s : CommandSet} (h : s.IsProper) {i : Nat}
    (hi : s.finalize[i]? = some quietText) : i = 0 := by
  have hlines : quietText ∉ s.lines.toList := fun hmem => h (Std.ExtTreeSet.mem_toList.1 hmem)
  unfold finalize at hi
  split at hi
  · cases i with
    | zero => rfl
    | succ i =>
      rw [List.getElem?_cons_succ] at hi
      exact absurd (List.mem_of_getElem? hi) hlines
  · exact absurd (List.mem_of_getElem? hi) hlines

/-! ### Many additions -/

theorem addAll_empty (additions : List Addition) :
    empty.addAll additions = ofTexts (additions.map Addition.added) :=
  addAll_eq_insertTexts empty additions

/-- `quiet` never becomes a line of its own. -/
theorem IsProper.addAll {s : CommandSet} (h : s.IsProper) (additions : List Addition) :
    (s.addAll additions).IsProper := by
  induction additions generalizing s with
  | nil => exact h
  | cons a rest ih => exact ih (h.add a)

/-- The artifact lists the texts that were added. -/
theorem lists_addAll (additions : List Addition) :
    Lists (additions.map Addition.added) (empty.addAll additions).finalize where
  mem t := by
    rw [addAll_empty]
    exact mem_finalize_ofTexts
  nodup := by
    rw [addAll_empty]
    exact nodup_finalize_ofTexts _
  quiet _ := (isProper_empty.addAll additions).eq_zero_of_getElem?_finalize
  ascending := by
    rw [(isProper_empty.addAll additions).filter_finalize]
    exact pairwise_toList_lines _

/-- What holds of the set of given additions: its artifact lists the texts that were added, whatever
is added next is new exactly if it changes the artifact, and the set is that of other additions
exactly if the artifacts are the same, or if the same texts were added. -/
structure IsSetOf (additions : List Addition) (s : CommandSet) : Prop where
  lists : Lists (additions.map Addition.added) s.finalize
  size : s.size = s.finalize.length
  isEmpty : s.isEmpty = true ↔ s.finalize = []
  isNew : ∀ a, (s.add a).1 = true ↔ (s.add a).2.finalize ≠ s.finalize
  insert : ∀ line, s.insert line = s.insertText line.text
  eq_iff : ∀ others, (s = empty.addAll others ↔ s.finalize = (empty.addAll others).finalize) ∧
    (s = empty.addAll others ↔
      ∀ t, t ∈ additions.map Addition.added ↔ t ∈ others.map Addition.added)

/-- So it is after any additions, in whatever order and however often each of them is made. -/
theorem isSetOf_addAll (additions : List Addition) :
    IsSetOf additions (empty.addAll additions) where
  lists := lists_addAll additions
  size := (length_finalize _).symm
  isEmpty := by
    rw [isEmpty, beq_iff_eq, ← length_finalize, List.length_eq_zero_iff]
  isNew a := by
    rw [add_eq_insertText]
    exact (isProper_empty.addAll additions).insertText_fst_iff_changes a.added
  insert line := insert_eq_insertText _ line
  eq_iff others := by
    rw [addAll_empty, addAll_empty]
    exact ⟨finalize_ofTexts_inj.symm, ofTexts_eq_iff⟩

end CommandSet

end CompilerHints
