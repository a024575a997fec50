import CompilerHints.Proofs.Path
import Mathlib.Data.List.Basic

/-!
# The directory above a path

What stands above the last component of a path leads through the same places as the path, up to the
last of them that matters.

* `splitSlashes_joinSlashes`: pieces with slashes between them are found again.
* `Path.exists_steps_eq_append`: the steps of a path begin with those of the path above, and more
  follow.
-/

namespace CompilerHints

theorem slash_not_mem_of_mem_splitSlashes {cs piece : List Char} (h : piece ∈ splitSlashes cs) :
    '/' ∉ piece := by
  induction cs generalizing piece with
  | nil =>
    rw [splitSlashes, List.mem_singleton] at h
    simp [h]
  | cons c cs ih =>
    rw [splitSlashes] at h
    split at h
    · rcases List.mem_cons.1 h with rfl | h
      · exact List.not_mem_nil
      · exact ih h
    · next hc =>
      split at h
      · rw [List.mem_singleton.1 h]
        simpa using Ne.symm hc
      · next first more hsplit =>
        rcases List.mem_cons.1 h with rfl | h
        · rw [List.mem_cons, not_or]
          exact ⟨Ne.symm hc, ih (hsplit ▸ List.mem_cons_self)⟩
        · exact ih (hsplit ▸ List.mem_cons_of_mem _ h)

/-- Pieces with slashes between them are found again. -/
theorem splitSlashes_joinSlashes {pieces : List (List Char)} (hne : pieces ≠ [])
    (h : ∀ piece ∈ pieces, '/' ∉ piece) : splitSlashes (joinSlashes pieces) = pieces := by
  induction pieces with
  | nil => exact absurd rfl hne
  | cons piece more ih =>
    rw [List.forall_mem_cons] at h
    cases more with
    | nil => exact splitSlashes_of_not_mem h.1
    | cons next more =>
      rw [joinSlashes, splitSlashes_append, splitSlashes_of_not_mem h.1,
        ih (List.cons_ne_nil _ _) h.2, List.singleton_append]
      exact List.cons_ne_nil _ _

namespace Path

theorem innerSteps_joinSlashes {pieces : List (List Char)} (h : ∀ piece ∈ pieces, '/' ∉ piece) :
    innerSteps (joinSlashes pieces) = pieces.filterMap Component.ofPiece? := by
  cases pieces with
  | nil => rfl
  | cons piece more => rw [innerSteps, splitSlashes_joinSlashes (List.cons_ne_nil _ _) h]

theorem exists_ofPiece?_of_not_isIdle {piece : List Char} (h : isIdle piece = false) :
    ∃ step, Component.ofPiece? piece = some step := by
  unfold isIdle at h
  unfold Component.ofPiece?
  rw [Bool.or_eq_false_iff, beq_eq_false_iff_ne, beq_eq_false_iff_ne] at h
  rw [if_neg h.1]
  split
  · exact ⟨_, rfl⟩
  · split <;> exact ⟨_, rfl⟩

/-- What is taken off the end of pieces with the last one that is not idle. -/
theorem exists_pieces_eq_append {pieces above : List (List Char)} {last : List Char}
    (h : pieces.reverse.dropWhile isIdle = last :: above) :
    ∃ more, pieces = (above.dropWhile isIdle).reverse ++ more ∧
      more.filterMap Component.ofPiece? ≠ [] := by
  have hlast : isIdle last = false := by
    have hhead := List.head_dropWhile_not isIdle (l := pieces.reverse) (by simp [h])
    simpa [h] using hhead
  obtain ⟨step, hstep⟩ := exists_ofPiece?_of_not_isIdle hlast
  obtain ⟨idle, hidle⟩ : ∃ idle, idle ++ last :: above = pieces.reverse :=
    ⟨_, h ▸ List.takeWhile_append_dropWhile⟩
  have habove := List.takeWhile_append_dropWhile (p := isIdle) (l := above)
  refine ⟨(above.takeWhile isIdle).reverse ++ last :: idle.reverse, ?_, fun hnil => ?_⟩
  · rw [← List.reverse_reverse pieces, ← hidle, ← List.append_assoc, ← List.reverse_append, habove]
    simp
  · rw [List.filterMap_eq_nil_iff] at hnil
    rw [hnil last (by simp)] at hstep
    cases hstep

/-- The steps that the beginning of a path stands for, as it is cut off. -/
def headSteps (head : List Char) : List Component :=
  if head = ['/'] then [.root] else if head = ['.'] then [.current] else []

theorem cutHead_append (cs : List Char) : (cutHead cs).1 ++ (cutHead cs).2 = cs := by
  fun_cases cutHead cs <;> rfl

theorem innerSteps_slash (cs : List Char) : innerSteps ('/' :: cs) = innerSteps cs :=
  innerSteps_append [] cs

/-- Pieces behind a dot, the first of which is empty. -/
theorem innerSteps_dot {pieces : List (List Char)} (h : ∀ piece ∈ pieces, '/' ∉ piece)
    (hfirst : ∀ piece ∈ pieces.head?, piece = []) :
    innerSteps ('.' :: joinSlashes pieces) =
      .current :: pieces.filterMap Component.ofPiece? := by
  cases pieces with
  | nil => rfl
  | cons piece more =>
    obtain rfl : piece = [] := hfirst piece rfl
    cases more with
    | nil => rfl
    | cons next more =>
      have hmore := innerSteps_joinSlashes (List.forall_mem_cons.1 h).2
      have hdot := innerSteps_append ['.'] (joinSlashes (next :: more))
      rw [hmore] at hdot
      exact hdot

/-- A text that does not begin with a slash has no empty piece in front of a slash. -/
theorem head?_joinSlashes_ne {cs : List Char} (hcs : cs.head? ≠ some '/')
    {pieces more : List (List Char)} (h : splitSlashes cs = pieces ++ more) :
    (joinSlashes pieces).head? ≠ some '/' := by
  cases pieces with
  | nil => simp [joinSlashes]
  | cons piece rest =>
    cases cs with
    | nil =>
      obtain ⟨rfl, hrest⟩ := List.cons.inj h
      rw [(List.append_eq_nil_iff.1 hrest.symm).1]
      simp [joinSlashes]
    | cons c cs =>
      have hc : c ≠ '/' := by simpa using hcs
      obtain ⟨tail, rfl⟩ : ∃ tail, piece = c :: tail := by
        rw [splitSlashes, if_neg hc] at h
        split at h <;> exact ⟨_, (List.cons.inj h).1.symm⟩
      cases rest <;> simpa [joinSlashes] using hc

/-- The steps of what a path begins with and some of the pieces that follow. -/
theorem steps_cutHead_joinSlashes (cs : List Char) {pieces more : List (List Char)}
    (h : splitSlashes (cutHead cs).2 = pieces ++ more) :
    (Path.mk (String.ofList ((cutHead cs).1 ++ joinSlashes pieces))).steps =
      headSteps (cutHead cs).1 ++ pieces.filterMap Component.ofPiece? := by
  have hslash : ∀ piece ∈ pieces, '/' ∉ piece := fun piece hpiece =>
    slash_not_mem_of_mem_splitSlashes (h ▸ List.mem_append_left more hpiece)
  have hinner := innerSteps_joinSlashes hslash
  have hdot {first : List Char} {later : List (List Char)} 
      (h : first :: later = pieces ++ more) (hfirst : first = []) :
      innerSteps ('.' :: joinSlashes pieces) =
        .current :: pieces.filterMap Component.ofPiece? := by
    refine innerSteps_dot hslash fun piece hpiece => ?_
    cases pieces with
    | nil => cases hpiece
    | cons head rest =>
      cases hpiece
      exact (List.cons.inj h).1.symm.trans hfirst
  rw [steps_eq]
  simp only [isAbsolute, String.toList_ofList]
  fun_cases cutHead cs
  · exact congrArg (.root :: ·) ((innerSteps_slash _).trans hinner)
  · exact hdot h rfl
  · exact hdot h rfl
  · next hroot hdot' hdots =>
    have hcs : cs.head? ≠ some '/' := by
      cases cs with
      | nil => simp
      | cons c rest =>
        rintro e
        obtain rfl := Option.some.inj e
        exact hroot rest rfl
    have hcut : cutHead cs = ([], cs) := by
      rw [cutHead] <;> assumption
    rw [hcut] at h
    have hrelative := head?_joinSlashes_ne hcs h
    rw [List.nil_append, if_neg (by simpa using hrelative), List.nil_append, hinner]
    rfl

theorem joinSlashes_splitSlashes (cs : List Char) : joinSlashes (splitSlashes cs) = cs := by
  induction cs with
  | nil => rfl
  | cons c cs ih =>
    rw [splitSlashes]
    cases hsplit : splitSlashes cs with
    | nil => exact absurd hsplit (splitSlashes_ne_nil cs)
    | cons piece more =>
      rw [hsplit] at ih
      split
      · next hc =>
        rw [joinSlashes, ih, hc, List.nil_append]
        exact List.cons_ne_nil _ _
      · rw [← ih]
        cases more <;> rfl

/-- The steps of a path begin with those of the path above it, and more follow. -/
theorem exists_steps_eq_append (p : Path) :
    ∃ more, p.steps = (p.parent?.getD ⟨""⟩).steps ++ more ∧ (more = [] → p.steps = []) := by
  have hwhole : splitSlashes (cutHead p.text.toList).2 =
      splitSlashes (cutHead p.text.toList).2 ++ [] := (List.append_nil _).symm
  have hsteps := steps_cutHead_joinSlashes p.text.toList hwhole
  rw [joinSlashes_splitSlashes, cutHead_append, String.ofList_toList] at hsteps
  unfold parent?
  dsimp only
  split
  · next hidle =>
    refine ⟨p.steps, ?_, id⟩
    split <;> rfl
  · next last above hpieces =>
    obtain ⟨more, hcut, hmore⟩ := exists_pieces_eq_append hpieces
    have habove := steps_cutHead_joinSlashes p.text.toList hcut
    refine ⟨more.filterMap Component.ofPiece?, ?_, fun hnil => absurd hnil hmore⟩
    rw [Option.getD_some, habove, hsteps, hcut, List.filterMap_append, List.append_assoc]

end Path

end CompilerHints
