import CompilerHints.Proofs.Grammar

/-!
# Spellings of shapes

A shape that was read can be written and read again. It has no array of `void` in it, and its names
are dotted names that are not spelled like another shape.

* `Shape.IsSpellable`: the shapes that have a spelling of their own.
* `Shape.isSpellable_of_ofSpelling?`: every shape that is read is spellable.
* `Shape.ofSpelling?_spelling`: a spellable shape is read from its spelling.
* `Shape.Spells.toList_spelling`: a shape is written without the blanks with which it was read.
* `Shape.isCanonicalSpelling_spelling`: writing and reading undo each other on spellable shapes.
-/

namespace CompilerHints

open Text

namespace Shape

/-! ### Well-formed shapes -/

/-- Whether a shape has a spelling of its own: no array of `void` is inside, and a name is a dotted
name that spells no other shape. -/
def IsSpellable : Shape → Prop
  | primitive _ => True
  | void => True
  | array element => element ≠ void ∧ element.IsSpellable
  | reference name => isDottedName name = true ∧ name ≠ "void" ∧ Primitive.ofKeyword? name = none

theorem isSpellable_arrays {shape : Shape} (h : shape.IsSpellable) (hvoid : shape ≠ void)
    (depth : Nat) : (arrays depth shape).IsSpellable := by
  induction depth with
  | zero => exact h
  | succ depth ih => exact ⟨arrays_ne_void hvoid depth, ih⟩

/-- A base spells a spellable shape. -/
theorem IsBase.isSpellable {base : String} {shape : Shape} (h : IsBase base shape) :
    shape.IsSpellable := by
  cases h with
  | void => trivial
  | primitive kind => trivial
  | reference hparts hvoid hkeyword =>
    exact ⟨isDottedName_iff.2 hparts, hvoid, Primitive.ofKeyword?_eq_none_iff.2 hkeyword⟩

theorem Spells.isSpellable {text : String} {shape : Shape} (h : Spells text shape) :
    shape.IsSpellable := by
  cases h with
  | @intro _ _ _ base inner depth _ hbase _ _ _ hvoid =>
    by_cases e : inner = void
    · rw [hvoid e]
      exact hbase.isSpellable
    · exact isSpellable_arrays hbase.isSpellable e depth

/-- Every shape that is read is spellable. -/
theorem isSpellable_of_ofSpelling? {text : String} {shape : Shape}
    (h : ofSpelling? text = some shape) : shape.IsSpellable :=
  (ofSpelling?_eq_some_iff.1 h).isSpellable

/-! ### Reading what was written -/

/-- A text that is a base spells what the base does. -/
theorem IsBase.spells {base : String} {shape : Shape} (h : IsBase base shape) :
    Spells base shape :=
  .intro areBlanks_nil h .none areBlanks_nil (by simp) fun _ => rfl

/-- One more mark makes one more array level. -/
theorem Spells.array {text : String} {shape : Shape} (h : Spells text shape)
    (hshape : shape ≠ void) : Spells (text ++ "[]") (array shape) := by
  cases h with
  | @intro front marks back base inner depth hfront hbase hmarks hback htext hvoid =>
    have hinner : inner ≠ void := by
      rintro rfl
      rw [hvoid rfl] at hshape
      exact hshape rfl
    show Spells (text ++ "[]") (arrays (depth + 1) inner)
    refine .intro hfront hbase (hmarks.mark hback) areBlanks_nil ?_ fun e => absurd e hinner
    rw [String.toList_append, htext]
    simp

/-- The spelling of a spellable shape spells it. -/
theorem IsSpellable.spells {shape : Shape} (h : shape.IsSpellable) :
    Spells shape.spelling shape := by
  induction shape with
  | primitive kind => exact (IsBase.primitive kind).spells
  | void => exact IsBase.void.spells
  | array element ih => exact (ih h.2).array h.1
  | reference name =>
    obtain ⟨hname, hvoid, hkeyword⟩ := h
    exact (IsBase.reference (isDottedName_iff.1 hname) hvoid
      (Primitive.ofKeyword?_eq_none_iff.1 hkeyword)).spells

/-- A spellable shape is read from its spelling. -/
theorem ofSpelling?_spelling {shape : Shape} (h : shape.IsSpellable) :
    ofSpelling? shape.spelling = some shape :=
  ofSpelling?_eq_some_iff.2 h.spells

/-! ### Canonical spellings -/

theorem filter_areBlanks {cs : List Char} (h : AreBlanks cs) :
    cs.filter (fun c => !isBlank c) = [] := by
  rw [List.filter_eq_nil_iff]
  intro c hc
  simp [h c hc]

theorem IsBase.spelling_eq {base : String} {shape : Shape} (h : IsBase base shape) :
    shape.spelling = base := by
  cases h <;> rfl

theorem IsBase.filter_eq {base : String} {shape : Shape} (h : IsBase base shape) :
    base.toList.filter (fun c => !isBlank c) = base.toList := by
  rw [List.filter_eq_self]
  intro c hc
  simp [(not_blank_of_mem_dottedName h.isDottedName hc).1]

theorem toList_spelling_arrays {depth : Nat} {marks : List Char} (h : AreMarks depth marks)
    (shape : Shape) :
    (arrays depth shape).spelling.toList =
      shape.spelling.toList ++ marks.filter fun c => !isBlank c := by
  induction h with
  | none => simp [arrays]
  | @mark depth marks blanks hmarks hblanks ih =>
    have hmark : ['[', ']'].filter (fun c => !isBlank c) = ['[', ']'] := by decide
    rw [arrays, spelling, String.toList_append, ih, List.filter_append, List.filter_append,
      filter_areBlanks hblanks, hmark, List.append_nil, List.append_assoc]
    rfl

/-- A shape is written without the blanks with which it was read. -/
theorem Spells.toList_spelling {text : String} {shape : Shape} (h : Spells text shape) :
    shape.spelling.toList = text.toList.filter fun c => !isBlank c := by
  obtain ⟨hfront, hbase, hmarks, hback, htext, -⟩ := h
  rw [toList_spelling_arrays hmarks, htext, List.filter_append, List.filter_append,
    List.filter_append, filter_areBlanks hfront, filter_areBlanks hback, hbase.filter_eq,
    hbase.spelling_eq, List.nil_append, List.append_nil]

theorem isSpellable_of_parse {text : String} {shape : Shape} (h : parse text = .ok shape) :
    shape.IsSpellable :=
  (parse_eq_ok_iff.1 h).isSpellable

theorem parse_spelling_iff {shape : Shape} :
    parse shape.spelling = .ok shape ↔ shape.IsSpellable :=
  ⟨isSpellable_of_parse, fun h => parse_eq_ok_iff.2 h.spells⟩

/-- Spellable shapes are told by their spellings. -/
theorem IsSpellable.eq_of_spelling_eq {s t : Shape} (hs : s.IsSpellable) (ht : t.IsSpellable)
    (h : s.spelling = t.spelling) : s = t := by
  have hread := ofSpelling?_spelling hs
  rw [h, ofSpelling?_spelling ht] at hread
  exact (Option.some.inj hread).symm

/-- A way to write shapes that a reader undoes, as far as it can be undone. -/
structure IsCanonicalSpelling (spell : Shape → String) (parse : String → Except ShapeError Shape) :
    Prop where
  /-- The well-formed shapes are those that are read again. -/
  reads_iff : ∀ shape, parse (spell shape) = .ok shape ↔ shape.IsSpellable
  /-- Only well-formed shapes are read. -/
  isSpellable : ∀ text shape, parse text = .ok shape → shape.IsSpellable
  /-- A shape is written as any text that is read as it, without its blanks. -/
  canonical : ∀ text shape, parse text = .ok shape →
    (spell shape).toList = text.toList.filter fun c => !isBlank c
  /-- Texts are read as one shape exactly if they are written in one way. -/
  eq_iff : ∀ a b s t, parse a = .ok s → parse b = .ok t → (s = t ↔ spell s = spell t)

theorem isCanonicalSpelling_spelling : IsCanonicalSpelling spelling parse where
  reads_iff _ := parse_spelling_iff
  isSpellable _ _ h := isSpellable_of_parse h
  canonical _ _ h := (parse_eq_ok_iff.1 h).toList_spelling
  eq_iff a b s t hs ht := by
    constructor
    · rintro rfl
      rfl
    · exact (isSpellable_of_parse hs).eq_of_spelling_eq (isSpellable_of_parse ht)

end Shape

end CompilerHints
