import CompilerHints.Text.Numeric
import CompilerHints.Text.Blank

/-!
# Blanks around and inside texts

* `Ranges.IsApart`: two classes of characters that have none in common.
* `isAlphanumeric_eq_false_of_isBlank`: no blank is a letter or a number.
* `AreBlanks`: characters that are nothing but blanks.
* `trimFront_append`, `trimFront_eq_self`: what becomes of the blanks in front.
* `exists_trim`: a text is its trimmed form with blanks around it.
* `trim_eq_empty_iff`: when nothing is left.
-/

namespace CompilerHints.Text

/-! ### Blanks and letters -/

/-- No range of one list meets a range of the other. -/
def Ranges.IsApart (xs ys : Ranges) : Prop :=
  ∀ x ∈ xs, ∀ y ∈ ys, x.2 < y.1 ∨ y.2 < x.1

instance (xs ys : Ranges) : Decidable (xs.IsApart ys) :=
  inferInstanceAs (Decidable (∀ x ∈ xs, ∀ y ∈ ys, x.2 < y.1 ∨ y.2 < x.1))

theorem Ranges.IsApart.contains_eq_false {xs ys : Ranges} (h : xs.IsApart ys) {c : Char}
    (hc : xs.contains c = true) : ys.contains c = false := by
  rw [← Bool.not_eq_true, contains_iff]
  rintro ⟨y, hy, hfrom, hto⟩
  obtain ⟨x, hx, hfrom', hto'⟩ := contains_iff.1 hc
  rcases h x hx y hy with hlt | hlt <;> omega

theorem blankRanges_isApart_alphabeticRanges : blankRanges.IsApart alphabeticRanges := by
  decide +kernel

theorem blankRanges_isApart_numericRanges : blankRanges.IsApart numericRanges := by
  decide +kernel

/-- No blank is a letter or a number. -/
theorem isAlphanumeric_eq_false_of_isBlank {c : Char} (h : isBlank c = true) :
    isAlphanumeric c = false := by
  simp [isAlphanumeric, isAlphabetic, isNumeric,
    blankRanges_isApart_alphabeticRanges.contains_eq_false h,
    blankRanges_isApart_numericRanges.contains_eq_false h]

/-! ### Trimming -/

/-- Nothing but blanks. -/
def AreBlanks (cs : List Char) : Prop :=
  ∀ c ∈ cs, isBlank c = true

theorem areBlanks_nil : AreBlanks [] := by
  simp [AreBlanks]

theorem AreBlanks.append {a b : List Char} (ha : AreBlanks a) (hb : AreBlanks b) :
    AreBlanks (a ++ b) :=
  List.forall_mem_append.2 ⟨ha, hb⟩

theorem AreBlanks.reverse {cs : List Char} (h : AreBlanks cs) : AreBlanks cs.reverse :=
  fun c hc => h c (List.mem_reverse.1 hc)

theorem trimFront_append {blanks : List Char} (h : AreBlanks blanks) (cs : List Char) :
    trimFront (blanks ++ cs) = trimFront cs :=
  List.dropWhile_append_of_pos h

theorem trimFront_eq_self {cs : List Char} (h : ∀ c ∈ cs.head?, isBlank c = false) :
    trimFront cs = cs := by
  cases cs with
  | nil => rfl
  | cons c cs =>
    have hc : isBlank c = false := h c rfl
    rw [trimFront, List.dropWhile_cons, hc, if_neg Bool.false_ne_true]

/-- Only blanks are taken off. -/
theorem exists_trimFront (cs : List Char) :
    ∃ blanks, AreBlanks blanks ∧ cs = blanks ++ trimFront cs :=
  ⟨cs.takeWhile isBlank, fun _ hc => List.all_eq_true.1 List.all_takeWhile _ hc,
    List.takeWhile_append_dropWhile.symm⟩

theorem exists_trimBack (cs : List Char) :
    ∃ blanks, AreBlanks blanks ∧ cs = trimBack cs ++ blanks := by
  obtain ⟨blanks, hblanks, h⟩ := exists_trimFront cs.reverse
  refine ⟨blanks.reverse, hblanks.reverse, ?_⟩
  rw [trimBack, ← List.reverse_append, ← h, List.reverse_reverse]

/-- A text is its trimmed form with blanks around it. -/
theorem exists_trim (text : String) :
    ∃ front back, AreBlanks front ∧ AreBlanks back ∧
      text.toList = front ++ (trim text).toList ++ back := by
  obtain ⟨front, hfront, hcut⟩ := exists_trimFront text.toList
  obtain ⟨back, hback, hcut'⟩ := exists_trimBack (trimFront text.toList)
  refine ⟨front, back, hfront, hback, ?_⟩
  rw [trim, String.toList_ofList, List.append_assoc, ← hcut', ← hcut]

/-- Nothing is left of a text exactly if it has nothing but blanks. -/
theorem trim_eq_empty_iff {text : String} : trim text = "" ↔ AreBlanks text.toList := by
  constructor
  · intro h
    obtain ⟨front, back, hfront, hback, htext⟩ := exists_trim text
    rw [htext, h]
    exact (hfront.append areBlanks_nil).append hback
  · intro h
    have hfront : trimFront text.toList = [] := by
      rw [← List.append_nil text.toList, trimFront_append h]
      rfl
    rw [trim, hfront]
    rfl

end CompilerHints.Text
