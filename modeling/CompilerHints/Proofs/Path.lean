import CompilerHints.Path

/-!
# Steps of joined paths

* `splitSlashes_append`: the pieces of a text with a slash in it.
* `Path.IsEntryName`: texts that are one step, to an entry of a directory.
* `Path.steps_join_of_relative`: a relative path is followed from its base.
* `Path.steps_join`: an entry of a directory is one step further than the directory.
* `Path.components_join`: the components of a relative path come behind those of its base.
-/

namespace CompilerHints

theorem splitSlashes_ne_nil (cs : List Char) : splitSlashes cs ≠ [] := by
  cases cs with
  | nil => exact List.cons_ne_nil _ _
  | cons c cs =>
    rw [splitSlashes]
    split
    · exact List.cons_ne_nil _ _
    · split <;> exact List.cons_ne_nil _ _

/-- A slash ends one piece and begins the next. -/
theorem splitSlashes_append (a b : List Char) :
    splitSlashes (a ++ '/' :: b) = splitSlashes a ++ splitSlashes b := by
  induction a with
  | nil => rfl
  | cons c a ih =>
    rw [List.cons_append, splitSlashes, splitSlashes, ih]
    split
    · rfl
    · cases hs : splitSlashes a with
      | nil => exact absurd hs (splitSlashes_ne_nil a)
      | cons piece more => rfl

theorem splitSlashes_of_not_mem {cs : List Char} (h : '/' ∉ cs) : splitSlashes cs = [cs] := by
  induction cs with
  | nil => rfl
  | cons c cs ih =>
    rw [List.mem_cons, not_or] at h
    rw [splitSlashes, if_neg (Ne.symm h.1), ih h.2]

/-- What is written in front of a text without slashes belongs to its first piece. -/
theorem exists_splitSlashes_append_left {front : List Char} (h : '/' ∉ front) (cs : List Char) :
    ∃ first more, splitSlashes cs = first :: more ∧
      splitSlashes (front ++ cs) = (front ++ first) :: more := by
  obtain ⟨first, more, hsplit⟩ := List.exists_cons_of_ne_nil (splitSlashes_ne_nil cs)
  refine ⟨first, more, hsplit, ?_⟩
  induction front with
  | nil => exact hsplit
  | cons c front ih =>
    rw [List.mem_cons, not_or] at h
    rw [List.cons_append, splitSlashes, if_neg (Ne.symm h.1), ih h.2]
    rfl

/-- What is written behind a text without slashes belongs to its last piece. -/
theorem exists_splitSlashes_append_right {back : List Char} (h : '/' ∉ back) (cs : List Char) :
    ∃ init last, splitSlashes cs = init ++ [last] ∧
      splitSlashes (cs ++ back) = init ++ [last ++ back] := by
  induction cs with
  | nil => exact ⟨[], [], rfl, splitSlashes_of_not_mem h⟩
  | cons c cs ih =>
    obtain ⟨init, last, hsplit, happend⟩ := ih
    rw [List.cons_append, splitSlashes, splitSlashes, hsplit, happend]
    by_cases hc : c = '/'
    · rw [if_pos hc, if_pos hc]
      exact ⟨[] :: init, last, rfl, rfl⟩
    · rw [if_neg hc, if_neg hc]
      cases init with
      | nil => exact ⟨[], c :: last, rfl, rfl⟩
      | cons piece init => exact ⟨(c :: piece) :: init, last, rfl, rfl⟩

namespace Path

/-- A text that is one step, to an entry of a directory. -/
structure IsEntryName (name : String) : Prop where
  slash : '/' ∉ name.toList
  nonempty : name.toList ≠ []
  current : name.toList ≠ ['.']
  parent : name.toList ≠ ['.', '.']

theorem IsEntryName.ofPiece? {name : String} (h : IsEntryName name) :
    Component.ofPiece? name.toList = some (.child name) := by
  rw [Component.ofPiece?, if_neg h.nonempty, if_neg h.current, if_neg h.parent,
    String.ofList_toList]

theorem IsEntryName.isAbsolute {name : String} (h : IsEntryName name) :
    (Path.mk name).isAbsolute = false := by
  rw [Path.isAbsolute, beq_eq_false_iff_ne]
  exact fun e => h.slash (List.mem_of_mem_head? e)

/-- The steps that are read off a text between slashes. -/
def innerSteps (cs : List Char) : List Component :=
  (splitSlashes cs).filterMap Component.ofPiece?

theorem steps_eq (p : Path) :
    p.steps = (if p.isAbsolute then [.root] else []) ++ innerSteps p.text.toList := by
  unfold steps
  dsimp only
  split <;> rfl

theorem root_not_mem_innerSteps (cs : List Char) : .root ∉ innerSteps cs := by
  intro h
  obtain ⟨piece, -, h⟩ := List.mem_filterMap.1 h
  unfold Component.ofPiece? at h
  split at h
  · cases h
  · split at h
    · cases h
    · split at h <;> cases h

/-- Only the first step can be to the root. -/
theorem root_not_mem_tail_steps (p : Path) : .root ∉ p.steps.tail := by
  have hinner := root_not_mem_innerSteps p.text.toList
  rw [steps_eq]
  split
  · exact hinner
  · exact fun h => hinner (List.mem_of_mem_tail h)

theorem innerSteps_append (a b : List Char) :
    innerSteps (a ++ '/' :: b) = innerSteps a ++ innerSteps b := by
  rw [innerSteps, splitSlashes_append, List.filterMap_append]
  rfl

theorem IsEntryName.innerSteps {name : String} (h : IsEntryName name) :
    innerSteps name.toList = [.child name] := by
  rw [Path.innerSteps, splitSlashes_of_not_mem h.slash, List.filterMap_cons, h.ofPiece?]
  rfl

theorem steps_of_relative {p : Path} (h : p.isAbsolute = false) :
    p.steps = innerSteps p.text.toList := by
  rw [steps_eq, h, if_neg Bool.false_ne_true, List.nil_append]

/-- A relative path is followed from its base. -/
theorem steps_join_of_relative (base : Path) {p : Path} (h : p.isAbsolute = false) :
    (base.join p).steps = base.steps ++ p.steps := by
  obtain ⟨text⟩ := base
  have habsolute (rest : String) (hne : text ≠ "") :
      (Path.mk (text ++ rest)).isAbsolute = (Path.mk text).isAbsolute := by
    rw [isAbsolute, isAbsolute, String.toList_append]
    cases hcs : text.toList with
    | nil => exact absurd (String.toList_inj.1 hcs) hne
    | cons c cs => rfl
  rw [join, h, if_neg Bool.false_ne_true]
  -- a slash is put in between unless the base has one at its end or is not named at all
  by_cases hempty : text = ""
  · subst hempty
    rw [if_pos (by rfl), String.empty_append]
    rfl
  · rw [steps_of_relative h]
    cases hslash : (Path.mk text).endsInSlash with
    | true =>
      rw [endsInSlash, beq_iff_eq, List.getLast?_eq_some_iff] at hslash
      obtain ⟨above, e⟩ := hslash
      have hbase : innerSteps text.toList = innerSteps above := by
        rw [e, innerSteps_append]
        exact List.append_nil _
      rw [Bool.or_true, if_pos rfl, steps_eq, steps_eq, habsolute _ hempty, hbase]
      rw [String.toList_append, e, List.append_assoc, List.singleton_append, innerSteps_append,
        List.append_assoc]
    | false =>
      rw [Bool.or_false, if_neg (by simpa using hempty), steps_eq, steps_eq, String.append_assoc,
        habsolute _ hempty, String.toList_append, String.toList_append]
      have hsep : "/".toList = ['/'] := rfl
      rw [hsep, List.singleton_append, innerSteps_append, List.append_assoc]

/-- An entry of a directory is one step further than the directory. -/
theorem steps_join (base : Path) {name : String} (h : IsEntryName name) :
    (base.join ⟨name⟩).steps = base.steps ++ [.child name] := by
  rw [steps_join_of_relative base h.isAbsolute, steps_of_relative h.isAbsolute, h.innerSteps]

/-! ### Components -/

theorem parent_mem_steps_iff {p : Path} :
    .parent ∈ p.steps ↔ ['.', '.'] ∈ splitSlashes p.text.toList := by
  have hinner : .parent ∈ innerSteps p.text.toList ↔
      ['.', '.'] ∈ splitSlashes p.text.toList := by
    rw [innerSteps, List.mem_filterMap]
    constructor
    · rintro ⟨piece, hpiece, h⟩
      unfold Component.ofPiece? at h
      split at h
      · cases h
      · split at h
        · cases h
        · split at h
          · next hdots => exact hdots ▸ hpiece
          · cases h
    · intro hpiece
      exact ⟨_, hpiece, rfl⟩
  rw [steps_eq, ← hinner]
  split <;> simp

/-- The components are the steps, without some of those to the same directory. -/
theorem mem_components_iff {p : Path} {step : Component} (h : step ≠ .current) :
    step ∈ p.components ↔ step ∈ p.steps := by
  unfold components
  split
  · next rest hsteps => simp [hsteps, h]
  · simp [h]

theorem filter_components (p : Path) :
    p.components.filter (· ≠ .current) = p.steps.filter (· ≠ .current) := by
  unfold components
  split
  · next rest hsteps => simp [hsteps]
  · simp

theorem components_eq_nil_iff {p : Path} : p.components = [] ↔ p.steps = [] := by
  unfold components
  split
  · next rest hsteps => simp [hsteps]
  · next hcurrent =>
    cases hsteps : p.steps with
    | nil => simp
    | cons step rest =>
      have hstep : step ≠ .current := by
        rintro rfl
        exact hcurrent rest hsteps
      simp [hstep]

/-- The components of a relative path come behind those of its base. -/
theorem components_join (base : Path) {p : Path} (h : p.isAbsolute = false) :
    (base.join p).components = base.components ++
      if base.components = [] then p.components else p.components.filter (· ≠ .current) := by
  simp only [components_eq_nil_iff, filter_components]
  rw [components, components, components, steps_join_of_relative base h]
  cases base.steps with
  | nil => rfl
  | cons step steps => cases step <;> simp

end Path

end CompilerHints
