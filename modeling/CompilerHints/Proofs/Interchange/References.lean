import CompilerHints.Interchange.Round
import CompilerHints.Proofs.Processing.Accepted
import CompilerHints.Proofs.Spelling

/-!
# Shapes in an input

The shapes of an input are read from their spellings, so all of them are spellable and the names
of types in them are dotted names: none of them has a line feed in it. The names of members and of
their owners are taken as they are.

* `Declaration.IsSpellable`, `Element.IsSpellable`: all shapes inside are spellable.
* `Round.isSpellable_of_ofJson?`: all elements of a round that was read are of that kind.
* `Declaration.HasDottedNames`: all names of types inside a declaration are dotted names.
* `hasDottedNames_of_parseRounds`: all declarations of an input are of that kind.
-/

namespace CompilerHints

/-! ### Values of one form -/

namespace Json

variable {α : Type} {read? : Json → Option α}

theorem mem_of_mapM_eq_some {items : List Json} {xs : List α} (h : items.mapM read? = some xs) :
    ∀ x ∈ xs, ∃ item, read? item = some x := by
  induction items generalizing xs with
  | nil =>
    cases h
    simp
  | cons item items ih =>
    rw [List.mapM_cons] at h
    simp only [Option.bind_eq_bind, Option.bind_eq_some_iff] at h
    obtain ⟨x, hx, rest, hrest, h⟩ := h
    cases h
    rw [List.forall_mem_cons]
    exact ⟨⟨item, hx⟩, ih hrest⟩

/-- Every item of an array that was read was read by itself. -/
theorem mem_of_all?_eq_some {value : Json} {xs : List α} (h : all? read? value = some xs) :
    ∀ x ∈ xs, ∃ item, read? item = some x := by
  cases value with
  | array items => exact mem_of_mapM_eq_some h
  | _ => cases h

theorem mem_of_orElse_all?_eq_some {value? : Option Json} {xs : List α}
    (h : orElse value? (all? read?) [] = some xs) : ∀ x ∈ xs, ∃ item, read? item = some x := by
  cases value? with
  | none =>
    cases h
    simp
  | some value => exact mem_of_all?_eq_some h

theorem mem_of_optional_eq_some {value? : Option Json} {x? : Option α}
    (h : optional value? read? = some x?) : ∀ x ∈ x?, ∃ item, read? item = some x := by
  cases value? with
  | none =>
    cases h
    simp
  | some value =>
    cases value with
    | null =>
      cases h
      simp
    | _ =>
      obtain ⟨x, hx, rfl⟩ := Option.map_eq_some_iff.1 h
      simpa using ⟨_, hx⟩

end Json

/-! ### Spellable declarations -/

theorem Shape.isSpellable_of_ofJson? {value : Json} {shape : Shape}
    (h : Shape.ofJson? value = some shape) : shape.IsSpellable := by
  obtain ⟨text, -, h⟩ := Option.bind_eq_some_iff.1 h
  exact isSpellable_of_ofSpelling? h

/-- All shapes inside a declaration are spellable. -/
structure Declaration.IsSpellable (d : Declaration) : Prop where
  parameters : ∀ s ∈ d.parameters, s.IsSpellable
  returns : ∀ s ∈ d.returns, s.IsSpellable

theorem Json.isSpellable_of_orElse_all? {value? : Option Json} {shapes : List Shape}
    (h : Json.orElse value? (Json.all? Shape.ofJson?) [] = some shapes) :
    ∀ s ∈ shapes, s.IsSpellable := by
  intro s hs
  obtain ⟨item, hitem⟩ := Json.mem_of_orElse_all?_eq_some h s hs
  exact Shape.isSpellable_of_ofJson? hitem

theorem Declaration.isSpellable_of_ofJson? {value : Json} {d : Declaration}
    (h : Declaration.ofJson? value = some d) : d.IsSpellable := by
  obtain ⟨fields, -, h⟩ := Option.bind_eq_some_iff.1 h
  unfold Declaration.ofFields? at h
  split at h
  · simp only [Option.bind_eq_bind, Option.bind_eq_some_iff] at h
    obtain ⟨owner, -, name, -, parameters, hparameters, returns, hreturns, h⟩ := h
    cases h
    refine ⟨Json.isSpellable_of_orElse_all? hparameters, fun s hs => ?_⟩
    obtain ⟨item, hitem⟩ := Json.mem_of_optional_eq_some hreturns s hs
    exact Shape.isSpellable_of_ofJson? hitem
  · cases h

/-! ### Spellable elements -/

/-- The declaration of an element, if any, is spellable. -/
def Element.IsSpellable (element : Element) : Prop :=
  ∀ d, element.declaration? = some d → d.IsSpellable

theorem Element.isSpellable_of_ofKind? {kind : ElementKind} {fields : Json} {element : Element}
    (h : Element.ofKind? kind fields = some element) : element.IsSpellable := by
  intro d hd
  have hnone (names : List String) (read? : List (Option Json) → Option Element)
      (hread : ∀ values element, read? values = some element → element.declaration? = none)
      (h : (fields.fields? names).bind read? = some element) : d.IsSpellable := by
    obtain ⟨values, -, h⟩ := Option.bind_eq_some_iff.1 h
    rw [hread values element h] at hd
    cases hd
  cases kind with
  | method =>
    obtain ⟨d', hd', rfl⟩ := Option.map_eq_some_iff.1 h
    cases hd
    exact Declaration.isSpellable_of_ofJson? hd'
  | constructor =>
    obtain ⟨values, -, h⟩ := Option.bind_eq_some_iff.1 h
    split at h
    · simp only [Option.bind_eq_bind, Option.bind_eq_some_iff] at h
      obtain ⟨owner, -, parameters, hparameters, h⟩ := h
      cases h
      cases hd
      exact ⟨Json.isSpellable_of_orElse_all? hparameters, by simp [Declaration.constructor]⟩
    · cases h
  | package | type =>
    refine hnone _ _ (fun values element h => ?_) h
    split at h
    · simp only [Option.bind_eq_bind, Option.bind_eq_some_iff] at h
      obtain ⟨name, -, h⟩ := h
      cases h
      rfl
    · cases h
  | field | parameter =>
    refine hnone _ _ (fun values element h => ?_) h
    split at h
    · simp only [Option.bind_eq_bind, Option.bind_eq_some_iff] at h
      obtain ⟨owner, -, name, -, h⟩ := h
      cases h
      rfl
    · cases h

theorem Element.isSpellable_of_ofJson? {mode : ReadingMode} {value : Json} {element : Element}
    (h : Element.ofJson? mode value = some element) : element.IsSpellable := by
  obtain ⟨-, h⟩ := Option.ite_none_right_eq_some.1 h
  simp only [Option.bind_eq_bind, Option.bind_eq_some_iff] at h
  obtain ⟨⟨kindValue, fields⟩, -, kind, -, h⟩ := h
  exact isSpellable_of_ofKind? h

/-! ### Spellable rounds -/

theorem Acceptance.isSpellable_of_ofJson? {mode : ReadingMode} {value : Json} {a : Acceptance}
    (h : Acceptance.ofJson? mode value = some a) : a.element.IsSpellable := by
  obtain ⟨values, -, h⟩ := Option.bind_eq_some_iff.1 h
  split at h
  · simp only [Option.bind_eq_bind, Option.bind_eq_some_iff] at h
    obtain ⟨element, helement, attachments, -, h⟩ := h
    cases h
    exact Element.isSpellable_of_ofJson? helement
  · cases h

/-- The elements of a round that was read are spellable. -/
theorem Round.isSpellable_of_ofJson? {mode : ReadingMode} {value : Json} {round : Round}
    (h : Round.ofJson? mode value = some round) :
    ∀ a ∈ round.elements, a.element.IsSpellable := by
  obtain ⟨values, -, h⟩ := Option.bind_eq_some_iff.1 h
  split at h
  · simp only [Option.bind_eq_bind, Option.bind_eq_some_iff] at h
    obtain ⟨elements, helements, isFinal, -, h⟩ := h
    cases h
    intro a ha
    obtain ⟨item, hitem⟩ := Json.mem_of_orElse_all?_eq_some helements a ha
    exact Acceptance.isSpellable_of_ofJson? hitem
  · cases h

/-- Each round of an input was read by itself. -/
theorem mem_of_roundsOfJson?_eq_some {value : Json} {rounds : List Round}
    (h : roundsOfJson? value = some rounds) :
    ∀ round ∈ rounds, ∃ mode item, Round.ofJson? mode item = some round := by
  intro round hround
  unfold roundsOfJson? at h
  dsimp only at h
  split at h
  · next hall =>
    cases h
    obtain ⟨item, hitem⟩ := Json.mem_of_all?_eq_some hall round hround
    exact ⟨_, item, hitem⟩
  · obtain ⟨only, honly, rfl⟩ := Option.map_eq_some_iff.1 h
    rw [List.mem_singleton.1 hround]
    exact ⟨_, _, honly⟩

/-! ### Dotted names -/

/-- All names of types inside a declaration are dotted names. -/
def Declaration.HasDottedNames (d : Declaration) : Prop :=
  ∀ name ∈ d.references, Shape.isDottedName name = true

theorem Shape.IsSpellable.isDottedName {shape : Shape} (h : shape.IsSpellable) :
    ∀ name ∈ shape.references, Shape.isDottedName name = true := by
  induction shape with
  | array element ih => exact ih h.2
  | reference name => simpa [references] using h.1
  | _ => simp [references]

theorem Declaration.IsSpellable.hasDottedNames {d : Declaration} (h : d.IsSpellable) :
    d.HasDottedNames := by
  intro name hname
  obtain ⟨s, hs, hname⟩ := List.mem_flatMap.1 hname
  rcases List.mem_append.1 hs with hs | hs
  · exact (h.parameters s hs).isDottedName name hname
  · exact (h.returns s (Option.mem_toList.1 hs)).isDottedName name hname

/-- The element of an acceptance has a declaration with dotted names, if any. -/
def Acceptance.HasDottedNames (a : Acceptance) : Prop :=
  ∀ d, a.element.declaration? = some d → d.HasDottedNames

theorem hasDottedNames_of_roundsOfJson? {value : Json} {rounds : List Round}
    (h : roundsOfJson? value = some rounds) : ∀ a ∈ acceptances rounds, a.HasDottedNames := by
  intro a ha d hd
  obtain ⟨round, hround, ha⟩ := List.mem_flatMap.1 ha
  obtain ⟨mode, item, hitem⟩ := mem_of_roundsOfJson?_eq_some h round hround
  exact (Round.isSpellable_of_ofJson? hitem a ha d hd).hasDottedNames

/-- The declarations of an input have dotted names. -/
theorem hasDottedNames_of_parseRounds {text : String} {rounds : List Round}
    (h : parseRounds text = .ok rounds) : ∀ a ∈ acceptances rounds, a.HasDottedNames := by
  unfold parseRounds at h
  split at h
  · cases h
  · split at h
    · cases h
    · split at h
      · cases h
      · next hrounds =>
        split at h
        · cases h
          exact hasDottedNames_of_roundsOfJson? hrounds
        · cases h

end CompilerHints
