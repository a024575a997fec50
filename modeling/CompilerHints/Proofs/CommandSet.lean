import CompilerHints.CommandSet
import CompilerHints.Proofs.LineText

/-!
# What command sets hold

A command set that texts were put into holds these texts, whatever their order and however often
each came; rendered lines and texts that are read back are put in alike. `quiet` is held as a flag
and never as a line of its own.

* `CommandSet.ofTexts`: the set of a list of texts.
* `CommandSet.mem_finalize_ofTexts`, `CommandSet.nodup_finalize_ofTexts`: the artifact has each of
  the texts once.
* `CommandSet.ofTexts_eq_iff`: lists with the same texts make the same set.
* `CommandSet.finalize_ofTexts_inj`: an artifact tells the set.
-/

namespace CompilerHints

namespace CommandSet

theorem ext {s r : CommandSet} (hquiet : s.quiet = r.quiet)
    (hlines : ∀ t, t ∈ s.lines ↔ t ∈ r.lines) : s = r := by
  obtain ⟨lines, quiet⟩ := s
  obtain ⟨lines', quiet'⟩ := r
  have hl : lines = lines' := Std.ExtTreeSet.ext_mem fun {t} => hlines t
  have hq : quiet = quiet' := hquiet
  rw [hl, hq]

/-- A rendered line is put in as its text is. -/
theorem insert_eq_insertText (s : CommandSet) (line : Line) :
    s.insert line = s.insertText line.text := by
  unfold insert insertText
  by_cases h : line.isQuiet = true
  · rw [if_pos h, if_pos (Line.text_eq_quietText_iff.2 h)]
  · rw [if_neg h, if_neg (mt Line.text_eq_quietText_iff.1 h)]

theorem quiet_insertText {s : CommandSet} {text : String} :
    (s.insertText text).2.quiet = true ↔ s.quiet = true ∨ text = quietText := by
  unfold insertText
  split
  · next h => simp [markQuiet, h]
  · next h => simp [addLine, h]

theorem mem_lines_insertText {s : CommandSet} {text t : String} :
    t ∈ (s.insertText text).2.lines ↔ t ∈ s.lines ∨ (t = text ∧ t ≠ quietText) := by
  unfold insertText
  split
  · next h =>
    simp only [markQuiet]
    exact ⟨.inl, fun ht => ht.resolve_right fun ⟨e, ne⟩ => ne (e.trans h)⟩
  · next h =>
    simp only [addLine, Std.ExtTreeSet.mem_insert, Std.LawfulEqCmp.compare_eq_iff_eq]
    constructor
    · rintro (rfl | ht)
      · exact .inr ⟨rfl, h⟩
      · exact .inl ht
    · rintro (ht | ⟨rfl, -⟩)
      · exact .inr ht
      · exact .inl rfl

/-- A text is new unless it is held. -/
theorem insertText_fst_eq_false_iff {s : CommandSet} {text : String} (h : text ≠ quietText) :
    (s.insertText text).1 = false ↔ text ∈ s.lines := by
  rw [insertText, if_neg h, addLine, Bool.not_eq_false', Std.ExtTreeSet.contains_iff_mem]

/-- The flag stands for the one text that is no line. -/
theorem mem_finalize_iff {s : CommandSet} {t : String} :
    t ∈ s.finalize ↔ t ∈ s.lines ∨ (s.quiet = true ∧ t = quietText) := by
  unfold finalize
  split
  · next h =>
    rw [List.mem_cons, Std.ExtTreeSet.mem_toList, and_iff_right h, or_comm]
  · next h =>
    rw [Std.ExtTreeSet.mem_toList]
    exact ⟨.inl, fun ht => ht.resolve_right fun e => h e.1⟩

/-! ### Many texts -/

/-- A set with texts put in one after the other. -/
def insertTexts (s : CommandSet) (texts : List String) : CommandSet :=
  texts.foldl (fun s text => (s.insertText text).2) s

@[simp] theorem insertTexts_nil (s : CommandSet) : s.insertTexts [] = s := rfl

@[simp] theorem insertTexts_cons (s : CommandSet) (text : String) (texts : List String) :
    s.insertTexts (text :: texts) = (s.insertText text).2.insertTexts texts := rfl

theorem insertTexts_append (s : CommandSet) (a b : List String) :
    s.insertTexts (a ++ b) = (s.insertTexts a).insertTexts b :=
  List.foldl_append

theorem quiet_insertTexts {s : CommandSet} {texts : List String} :
    (s.insertTexts texts).quiet = true ↔ s.quiet = true ∨ quietText ∈ texts := by
  induction texts generalizing s with
  | nil => simp
  | cons text texts ih =>
    rw [insertTexts_cons, ih, quiet_insertText, List.mem_cons, or_assoc, eq_comm (a := text)]

theorem mem_lines_insertTexts {s : CommandSet} {texts : List String} {t : String} :
    t ∈ (s.insertTexts texts).lines ↔ t ∈ s.lines ∨ (t ∈ texts ∧ t ≠ quietText) := by
  induction texts generalizing s with
  | nil => simp
  | cons text texts ih =>
    rw [insertTexts_cons, ih, mem_lines_insertText, List.mem_cons, or_assoc, ← or_and_right]

/-- Texts may be put in in any order. -/
theorem insertTexts_perm (s : CommandSet) {a b : List String} (h : a.Perm b) :
    s.insertTexts a = s.insertTexts b := by
  refine ext ?_ fun t => ?_
  · rw [Bool.eq_iff_iff, quiet_insertTexts, quiet_insertTexts, h.mem_iff]
  · rw [mem_lines_insertTexts, mem_lines_insertTexts, h.mem_iff]

/-- The set of a list of texts. -/
def ofTexts (texts : List String) : CommandSet :=
  empty.insertTexts texts

theorem quiet_ofTexts {texts : List String} :
    (ofTexts texts).quiet = true ↔ quietText ∈ texts := by
  rw [ofTexts, quiet_insertTexts]
  simp [empty]

theorem mem_lines_ofTexts {texts : List String} {t : String} :
    t ∈ (ofTexts texts).lines ↔ t ∈ texts ∧ t ≠ quietText := by
  rw [ofTexts, mem_lines_insertTexts]
  simp [empty]

/-- The artifact has the texts that were put in and no others. -/
theorem mem_finalize_ofTexts {texts : List String} {t : String} :
    t ∈ (ofTexts texts).finalize ↔ t ∈ texts := by
  rw [mem_finalize_iff, mem_lines_ofTexts, quiet_ofTexts]
  constructor
  · rintro (⟨ht, -⟩ | ⟨hquiet, rfl⟩)
    · exact ht
    · exact hquiet
  · intro ht
    by_cases hquiet : t = quietText
    · exact .inr ⟨hquiet ▸ ht, hquiet⟩
    · exact .inl ⟨ht, hquiet⟩

theorem finalize_ofTexts_eq_nil_iff {texts : List String} :
    (ofTexts texts).finalize = [] ↔ texts = [] := by
  simp only [List.eq_nil_iff_forall_not_mem, mem_finalize_ofTexts]

/-- The artifact has each of its lines once. -/
theorem nodup_finalize_ofTexts (texts : List String) : (ofTexts texts).finalize.Nodup := by
  have hlines : (ofTexts texts).lines.toList.Nodup :=
    Std.ExtTreeSet.distinct_toList.imp fun {a b} ne e => ne (by
      rw [e]
      exact Std.ReflCmp.compare_self)
  unfold finalize
  split
  · refine List.nodup_cons.2 ⟨fun h => ?_, hlines⟩
    rw [Std.ExtTreeSet.mem_toList, mem_lines_ofTexts] at h
    exact h.2 rfl
  · exact hlines

/-- Lists with the same texts make the same set. -/
theorem ofTexts_eq_iff {a b : List String} : ofTexts a = ofTexts b ↔ ∀ t, t ∈ a ↔ t ∈ b := by
  constructor
  · intro h t
    rw [← mem_finalize_ofTexts, h, mem_finalize_ofTexts]
  · intro h
    refine ext ?_ fun t => ?_
    · rw [Bool.eq_iff_iff, quiet_ofTexts, quiet_ofTexts, h]
    · rw [mem_lines_ofTexts, mem_lines_ofTexts, h]

/-- The lines of an artifact make the set again. -/
theorem ofTexts_finalize (texts : List String) :
    ofTexts (ofTexts texts).finalize = ofTexts texts :=
  ofTexts_eq_iff.2 fun _ => mem_finalize_ofTexts

/-- An artifact tells the set. -/
theorem finalize_ofTexts_inj {a b : List String} :
    (ofTexts a).finalize = (ofTexts b).finalize ↔ ofTexts a = ofTexts b := by
  refine ⟨fun h => ofTexts_eq_iff.2 fun t => ?_, fun h => by rw [h]⟩
  rw [← mem_finalize_ofTexts, h, mem_finalize_ofTexts]

theorem head?_finalize_of_quiet {s : CommandSet} (h : s.quiet = true) :
    s.finalize.head? = some quietText := by
  rw [finalize, if_pos h]
  rfl

end CommandSet

end CompilerHints
