import CompilerHints.Proofs.Processing.Accepted

/-!
# Lines of elements and of declarations

A directive is rendered on a declaration, or on the element that the declaration stands for, which
renders it on a declaration of its own. An element that is named as a constructor has no result, so
the two ways part exactly where such a declaration has one.

* `Declaration.LosesResult`, `Declaration.kept`: what an element keeps of a declaration.
* `Declaration.descriptor_kept_eq_iff`: when nothing is lost.
* `Line.LooksLike`, `Line.looksLike_member_iff`: lines that nothing tells apart.
* `Element.Renders`: what is known of the line for a directive on an element.
* `Line.ofElement?_agrees`: both ways of rendering.
-/

namespace CompilerHints

/-- Only `void` has the code of `void`. -/
theorem Shape.signature_eq_signature_void_iff {s : Shape} :
    s.signature = void.signature ↔ s = void := by
  rw [← String.toList_inj, toList_signature_void]
  cases s with
  | primitive kind => cases kind <;> simp [Primitive.code]
  | void => simp
  | array element => simp
  | reference name => simp

namespace Declaration

/-- Whether a declaration is named as constructors are and has a result all the same. -/
def LosesResult (d : Declaration) : Prop :=
  d.name = constructorName ∧ d.result ≠ .void

/-- What the element of a declaration keeps of it. -/
def kept (d : Declaration) : Declaration :=
  if d.isConstructor then constructor d.owner d.parameters else d

/-- With the same parameters, a signature tells the code of the result. -/
theorem signature_eq_iff {d e : Declaration} (h : d.parameters = e.parameters) :
    d.signature = e.signature ↔ d.result.signature = e.result.signature := by
  rw [← String.toList_inj, toList_signature, toList_signature, h, List.cons_inj_right,
    List.append_cancel_left_eq, List.cons_inj_right, String.toList_inj]

/-- With the same owner and name, a descriptor tells the signature. -/
theorem descriptor_eq_iff {d e : Declaration} (howner : d.owner = e.owner)
    (hname : d.name = e.name) : d.descriptor = e.descriptor ↔ d.signature = e.signature := by
  rw [descriptor, descriptor, howner, hname, String.append_right_inj]

/-- The descriptor is kept exactly if no result is lost. -/
theorem descriptor_kept_eq_iff (d : Declaration) :
    d.kept.descriptor = d.descriptor ↔ ¬ d.LosesResult := by
  unfold kept LosesResult
  by_cases hname : d.name = constructorName
  · have hconstructor : d.isConstructor = true := beq_iff_eq.2 hname
    have howner : (constructor d.owner d.parameters).owner = d.owner := rfl
    have hparameters : (constructor d.owner d.parameters).parameters = d.parameters := rfl
    have hresult : (constructor d.owner d.parameters).result = .void := rfl
    rw [if_pos hconstructor, descriptor_eq_iff howner hname.symm, signature_eq_iff hparameters,
      hresult, eq_comm, Shape.signature_eq_signature_void_iff, and_iff_right hname, not_not]
  · have hmethod : ¬ d.isConstructor = true := mt beq_iff_eq.1 hname
    rw [if_neg hmethod]
    exact iff_of_true rfl fun h => hname h.1

end Declaration

namespace Element

theorem declaration?_ofDeclaration (d : Declaration) :
    (ofDeclaration d).declaration? = some d.kept := by
  unfold ofDeclaration Declaration.kept
  split <;> rfl

theorem scope_ofDeclaration (d : Declaration) : (ofDeclaration d).scope = d.kept.descriptor := by
  unfold ofDeclaration Declaration.kept
  split <;> rfl

/-- The element of a declaration is a method or a constructor, which take every directive. -/
theorem allowedOn_ofDeclaration (d : Declaration) (k : Directive) :
    k.allowedOn (ofDeclaration d).kind = true := by
  unfold ofDeclaration
  split <;> rfl

/-- What is known of the line for a directive on an element. -/
structure Renders (e : Element) (k : Directive) : Prop where
  /-- There is one exactly where the directive is allowed. -/
  isSome_iff : (Line.ofElement? e k).isSome = true ↔ k.allowedOn e.kind = true
  directive : ∀ line ∈ Line.ofElement? e k, line.directive = k
  text : ∀ line ∈ Line.ofElement? e k, line.text = quietText ↔ k = .quiet
  /-- On packages and types it goes by their name. -/
  descriptor : ∀ line ∈ Line.ofElement? e k, e.kind = .package ∨ e.kind = .type →
    line.descriptor = e.scope

theorem renders (e : Element) (k : Directive) : e.Renders k := by
  have hdirective : ∀ line ∈ Line.ofElement? e k, line.directive = k := by
    intro line hline
    obtain ⟨-, ⟨d, -, rfl⟩ | ⟨-, hquiet, rfl⟩⟩ := Line.ofElement?_eq_some_iff.1 hline
    · rfl
    · exact hquiet.symm
  refine ⟨?_, hdirective, fun line hline => ?_, fun line hline hkind => ?_⟩
  · unfold Line.ofElement?
    cases hallowed : k.allowedOn e.kind with
    | false => simp
    | true => cases e.declaration? <;> simp
  · rw [Line.text_eq_quietText_iff, Line.isQuiet_iff, hdirective line hline]
  · have hnone : e.declaration? = none := by
      cases e with
      | package name => rfl
      | type name => rfl
      | _ => rcases hkind with h | h <;> cases h
    obtain ⟨-, ⟨d, hd, -⟩ | ⟨-, -, rfl⟩⟩ := Line.ofElement?_eq_some_iff.1 hline
    · rw [hnone] at hd
      cases hd
    · rfl

end Element

namespace Line

/-- Nothing tells two lines apart. -/
structure LooksLike (a b : Line) : Prop where
  text : a.text = b.text
  directive : a.directive = b.directive
  descriptor : a.descriptor = b.descriptor
  fragmentName : a.fragmentName = b.fragmentName

/-- Lines with the same directive and descriptor look alike. -/
theorem looksLike_of_descriptor_eq {a b : Line} (hdirective : a.directive = b.directive)
    (hdescriptor : a.descriptor = b.descriptor) : a.LooksLike b := by
  refine ⟨?_, hdirective, hdescriptor, by rw [fragmentName, fragmentName, hdirective, hdescriptor]⟩
  have hquiet : a.isQuiet = b.isQuiet := by rw [isQuiet, isQuiet, hdirective]
  cases ha : a.isQuiet with
  | true => rw [text_of_isQuiet ha, text_of_isQuiet (hquiet ▸ ha)]
  | false =>
    rw [text_of_not_isQuiet ha, text_of_not_isQuiet (hquiet ▸ ha), hdirective, hdescriptor]

/-- Lines for one directive look alike exactly if the descriptors of their declarations agree. -/
theorem looksLike_member_iff {d e : Declaration} {k : Directive} :
    (member d k).LooksLike (member e k) ↔ d.descriptor = e.descriptor := by
  constructor
  · intro h
    have hdescriptor := h.descriptor
    rwa [descriptor_member, descriptor_member, String.append_left_inj] at hdescriptor
  · intro h
    refine looksLike_of_descriptor_eq rfl ?_
    rw [descriptor_member, descriptor_member, h]

theorem ofElement?_ofDeclaration (d : Declaration) (k : Directive) :
    ofElement? (.ofDeclaration d) k = some (member d.kept k) :=
  ofElement?_eq_some_iff.2 ⟨Element.allowedOn_ofDeclaration d k,
    .inl ⟨d.kept, Element.declaration?_ofDeclaration d, rfl⟩⟩

/-- A directive is rendered on a declaration as on the element that it stands for, whatever the
directive, unless the element loses a result; and then the name of the element is not the descriptor
of the declaration. On any element a directive is rendered exactly where it is allowed. -/
theorem ofElement?_agrees :
    (∀ (d : Declaration) (k : Directive), ∃ line, ofElement? (.ofDeclaration d) k = some line ∧
      (line.LooksLike (member d k) ↔ ¬ d.LosesResult)) ∧
    (∀ d : Declaration, (Element.ofDeclaration d).scope = d.descriptor ↔ ¬ d.LosesResult) ∧
    ∀ (e : Element) (k : Directive), e.Renders k := by
  refine ⟨fun d k => ⟨member d.kept k, ofElement?_ofDeclaration d k, ?_⟩, fun d => ?_,
    Element.renders⟩
  · rw [looksLike_member_iff, d.descriptor_kept_eq_iff]
  · rw [Element.scope_ofDeclaration, d.descriptor_kept_eq_iff]

/-- A constructor that is said to give a number is rendered without it on its element. -/
example :
    let d : Declaration := ⟨"a.B", "<init>", [], some (.primitive .int)⟩
    (ofElement? (.ofDeclaration d) .log).map text = some "log a.B::<init> ()V" ∧
      (member d .log).text = "log a.B::<init> ()I" := by
  decide

end Line

end CompilerHints
