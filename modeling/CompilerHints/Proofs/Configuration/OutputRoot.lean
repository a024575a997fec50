import CompilerHints.Configuration.Document
import CompilerHints.Configuration.Options
import CompilerHints.Configuration.Output
import CompilerHints.Proofs.Blanks
import CompilerHints.Proofs.FileSystem
import CompilerHints.Proofs.Path

/-!
# Artifacts below the output root

The path of the artifact is validated without the blanks at its ends and used with them. Blanks can
neither hide a slash at the beginning nor a step upwards, so the artifact stays below the root.

* `mem_splitSlashes_of_blanks`: a piece without blanks is still there when a text is trimmed.
* `Configuration.IsValidated`: the settings that come out of a document or of options.
* `Configuration.IsValidated.staysBelow_resolve`: their artifact is below the output root.
-/

namespace CompilerHints

open Text

theorem slash_not_mem_of_areBlanks {cs : List Char} (h : AreBlanks cs) : '/' ∉ cs := by
  intro hmem
  exact absurd (h '/' hmem) (by decide)

theorem eq_nil_of_areBlanks {cs : List Char} (h : AreBlanks cs)
    (hcs : ∀ c ∈ cs, isBlank c = false) : cs = [] := by
  cases cs with
  | nil => rfl
  | cons c cs =>
    have hblank := h c List.mem_cons_self
    rw [hcs c List.mem_cons_self] at hblank
    cases hblank

/-- A piece without blanks is one of the pieces that are left when blanks at the ends are gone. -/
theorem mem_splitSlashes_of_blanks {front cs back piece : List Char} (hfront : AreBlanks front)
    (hback : AreBlanks back) (hpiece : ∀ c ∈ piece, isBlank c = false)
    (h : piece ∈ splitSlashes (front ++ cs ++ back)) : piece ∈ splitSlashes cs := by
  obtain ⟨first, more, hcs, happend⟩ :=
    exists_splitSlashes_append_left (slash_not_mem_of_areBlanks hfront) cs
  obtain ⟨init, last, hcut, hwhole⟩ :=
    exists_splitSlashes_append_right (slash_not_mem_of_areBlanks hback) (front ++ cs)
  have hleft : piece ∈ splitSlashes (front ++ cs) := by
    rw [hwhole, List.mem_append, List.mem_singleton] at h
    rw [hcut, List.mem_append, List.mem_singleton]
    rcases h with h | rfl
    · exact .inl h
    · rw [eq_nil_of_areBlanks hback fun c hc => hpiece c (List.mem_append_right _ hc)]
      exact .inr (List.append_nil last)
  rw [happend, List.mem_cons] at hleft
  rw [hcs, List.mem_cons]
  rcases hleft with rfl | hmore
  · rw [eq_nil_of_areBlanks hfront fun c hc => hpiece c (List.mem_append_left _ hc)]
    exact .inl rfl
  · exact .inr hmore

namespace Path

/-- Blanks do not hide a slash at the beginning. -/
theorem isAbsolute_trim {text : String} (h : (Path.mk text).isAbsolute = true) :
    (Path.mk (trim text)).isAbsolute = true := by
  obtain ⟨front, back, hfront, hback, htext⟩ := exists_trim text
  rw [isAbsolute, beq_iff_eq] at h ⊢
  rw [htext] at h
  cases front with
  | cons c front =>
    obtain rfl := Option.some.inj h
    exact absurd List.mem_cons_self (slash_not_mem_of_areBlanks hfront)
  | nil =>
    cases htrim : (trim text).toList with
    | cons c cs =>
      rw [htrim] at h
      exact h
    | nil =>
      rw [htrim] at h
      exact absurd (List.mem_of_mem_head? h) (slash_not_mem_of_areBlanks hback)

/-- Blanks do not hide a step upwards. -/
theorem parent_mem_steps_trim {text : String} (h : .parent ∈ (Path.mk text).steps) :
    .parent ∈ (Path.mk (trim text)).steps := by
  obtain ⟨front, back, hfront, hback, htext⟩ := exists_trim text
  rw [parent_mem_steps_iff] at h ⊢
  rw [htext] at h
  have hdot : isBlank '.' = false := by decide
  exact mem_splitSlashes_of_blanks hfront hback
    (List.forall_mem_cons.2 ⟨hdot, List.forall_mem_singleton.2 hdot⟩) h

/-- The steps of a relative path that does not lead upwards. -/
theorem step_cases {p : Path} (hrelative : p.isAbsolute = false) (hparent : .parent ∉ p.steps)
    {step : Component} (h : step ∈ p.steps) :
    step = .current ∨ ∃ name, step = .child name := by
  cases step with
  | root =>
    rw [steps_of_relative hrelative] at h
    exact absurd h (root_not_mem_innerSteps _)
  | current => exact .inl rfl
  | parent => exact absurd h hparent
  | child name => exact .inr ⟨name, rfl⟩

/-- A relative path is written behind its base, if need be with a slash between. -/
theorem exists_text_join (base : Path) {p : Path} (h : p.isAbsolute = false) :
    ∃ slash, (slash = "" ∨ slash = "/") ∧
      (base.join p).text = base.text ++ slash ++ p.text := by
  rw [join, h, if_neg Bool.false_ne_true]
  split
  · exact ⟨"", .inl rfl, by rw [String.append_empty]⟩
  · exact ⟨"/", .inr rfl, rfl⟩

end Path

/-! ### Places -/

/-- Steps that lead neither upwards nor to the root end below the place where they begin. -/
theorem FileSystem.isPrefix_place {steps : List Component}
    (h : ∀ step ∈ steps, step = .current ∨ ∃ name, step = .child name) (start : Location) :
    start <+: place start steps := by
  induction steps generalizing start with
  | nil => exact List.prefix_refl start
  | cons step steps ih =>
    rw [List.forall_mem_cons] at h
    obtain ⟨hstep, hsteps⟩ := h
    show start <+: place (move start step) steps
    rcases hstep with rfl | ⟨name, rfl⟩
    · exact ih hsteps start
    · exact (List.prefix_append start [name]).trans (ih hsteps _)

/-! ### Validated settings -/

namespace Configuration

variable {c : Configuration}

/-- Settings that came out of a document, or of options that were laid over other settings. -/
inductive IsValidated : Configuration → Prop
  | document {text : String} {c : Configuration} (h : ofDocument text = .ok c) : IsValidated c
  | options {before : Configuration} {options : List ConfigurationOption} {c : Configuration}
      (h : before.applyOptions options = .ok c) : IsValidated c

theorem validate_eq_ok {before : Configuration} (h : before.validate = .ok c) :
    c.fault? = none := by
  unfold validate at h
  split at h
  · cases h
  · next hnone =>
    cases h
    exact hnone

/-- Settings are validated whichever way they come. -/
theorem IsValidated.fault?_eq_none (h : c.IsValidated) : c.fault? = none := by
  cases h with
  | document h =>
    unfold ofDocument at h
    split at h
    · exact validate_eq_ok h
    · cases h
  | options h =>
    unfold applyOptions at h
    split at h
    · exact validate_eq_ok h
    · cases h

/-- The path of the artifact, blanks included, is relative and does not lead upwards. -/
theorem IsValidated.outputPath (h : c.IsValidated) :
    (Path.mk c.outputPath).isAbsolute = false ∧ .parent ∉ (Path.mk c.outputPath).steps := by
  have hfault := h.fault?_eq_none
  simp only [fault?] at hfault
  split at hfault
  · cases hfault
  · split at hfault
    · cases hfault
    · next habsolute =>
      split at hfault
      · cases hfault
      · next hparent =>
        rw [List.contains_iff_mem, Path.mem_components_iff (by decide)] at hparent
        refine ⟨?_, fun hmem => hparent (Path.parent_mem_steps_trim hmem)⟩
        rw [← Bool.not_eq_true]
        exact fun htext => habsolute (Path.isAbsolute_trim htext)

/-- A destination is an artifact below a root, at a given path from there. -/
structure StaysBelow (root path : Path) (destination : Destination) : Prop where
  /-- The artifact is at the path as it is, seen from the root. -/
  eq_artifact : destination = .artifact (root.join path)
  /-- The path does not begin at the root of the file system. -/
  relative : path.isAbsolute = false
  /-- It does not lead upwards. -/
  parent : .parent ∉ path.components
  /-- The root is not replaced: the path is written behind it, if need be with a slash between. -/
  text : ∃ slash, (slash = "" ∨ slash = "/") ∧
    (root.join path).text = root.text ++ slash ++ path.text
  /-- Behind the components of the root come those of the path, and the ones to the same directory
  only where nothing is in front of them. -/
  components : (root.join path).components = root.components ++
    if root.components = [] then path.components else path.components.filter (· ≠ .current)
  /-- All of those are entries of directories, or the same directory. -/
  steps : ∀ step ∈ path.components, step = .current ∨ ∃ name, step = .child name
  /-- Wherever relative paths begin, the artifact's place is below that of the root. -/
  place : ∀ start, FileSystem.place start root.steps <+:
    FileSystem.place start (root.join path).steps

/-- The artifact of validated settings is below every output root. -/
theorem IsValidated.staysBelow_resolve (h : c.IsValidated) (hartifact : c.isIncremental = false)
    (root : Path) : StaysBelow root ⟨c.outputPath⟩ (c.resolve root).destination := by
  obtain ⟨hrelative, hparent⟩ := h.outputPath
  have hsteps (step : Component) (hstep : step ∈ (Path.mk c.outputPath).steps) :
      step = .current ∨ ∃ name, step = .child name := Path.step_cases hrelative hparent hstep
  have hfragments : c.fragmentsPath? = none := by
    rwa [isIncremental, Option.isSome_eq_false_iff, Option.isNone_iff_eq_none] at hartifact
  exact {
    eq_artifact := by rw [resolve, hfragments]
    relative := hrelative
    parent := by rwa [Path.mem_components_iff (by decide)]
    text := Path.exists_text_join root hrelative
    components := Path.components_join root hrelative
    steps := fun step hstep => by
      by_cases hcurrent : step = .current
      · exact .inl hcurrent
      · exact hsteps step ((Path.mem_components_iff hcurrent).1 hstep)
    place := fun start => by
      rw [Path.steps_join_of_relative root hrelative, FileSystem.place, FileSystem.place,
        List.foldl_append]
      exact FileSystem.isPrefix_place hsteps _ }

/-- An option gives a path with blanks at its ends, a step to the same directory and two slashes
in a row. -/
theorem staysBelow_of_option_with_blanks :
    applyOptions {} [⟨outputPathKey, " ./a//..b/ "⟩] = .ok { outputPath := " ./a//..b/ " } ∧
      StaysBelow ⟨"target/classes"⟩ ⟨" ./a//..b/ "⟩
        (resolve { outputPath := " ./a//..b/ " } ⟨"target/classes"⟩).destination := by
  have hoptions : applyOptions {} [⟨outputPathKey, " ./a//..b/ "⟩] =
      .ok { outputPath := " ./a//..b/ " } := rfl
  exact ⟨hoptions, IsValidated.staysBelow_resolve (.options hoptions) rfl _⟩

end Configuration

end CompilerHints
