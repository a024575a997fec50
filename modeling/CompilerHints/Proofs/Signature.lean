import CompilerHints.Declaration
import CompilerHints.Proofs.PrefixCode

/-!
# Signatures are uniquely decodable

The code of a shape says where it ends, as long as no name inside has a semicolon in it. So the
codes of parameters can be written one after the other, and the parenthesis behind them ends the
list.

* `Shape.references`: the names inside a shape.
* `Shape.signature_append_inj`: a shape is determined by its code and whatever follows.
* `Declaration.signature_append_inj`: parameters and result are determined by a signature and
  whatever follows. A result that is not given counts as `void`.
* `Declaration.parameterCodes_inj`: parameters are determined by their codes alone.
* `Declaration.signature_tells_shapes`: all that two signatures tell.
-/

namespace CompilerHints

namespace Shape

/-- The names of the classes and interfaces inside a shape. -/
def references : Shape → List String
  | primitive _ => []
  | void => []
  | array element => element.references
  | reference name => [name]

/-- Whether the end of every name inside a shape can be seen in its code. -/
def IsDelimited (shape : Shape) : Prop :=
  ∀ name ∈ shape.references, ';' ∉ name.toList

@[simp] theorem isDelimited_void : void.IsDelimited := by
  simp [IsDelimited, references]

@[simp] theorem isDelimited_array {element : Shape} :
    (array element).IsDelimited ↔ element.IsDelimited := Iff.rfl

@[simp] theorem isDelimited_reference {name : String} :
    (reference name).IsDelimited ↔ ';' ∉ name.toList := by
  simp [IsDelimited, references]

@[simp] theorem toList_signature_primitive (kind : Primitive) :
    (primitive kind).signature.toList = [kind.code] := by
  simp [signature]

@[simp] theorem toList_signature_void : void.signature.toList = ['V'] := rfl

@[simp] theorem toList_signature_array (element : Shape) :
    (array element).signature.toList = '[' :: element.signature.toList := by
  rw [signature, String.toList_append]
  rfl

@[simp] theorem toList_signature_reference (name : String) :
    (reference name).signature.toList = 'L' :: (name.toList ++ [';']) := by
  rw [signature, String.toList_append, String.toList_append]
  rfl

theorem code_injective {a b : Primitive} (h : a.code = b.code) : a = b := by
  cases a <;> cases b <;> first | rfl | cases h

/-- A shape is determined by its code and whatever follows. -/
theorem signature_append_inj {s t : Shape} {x y : List Char} (hs : s.IsDelimited)
    (ht : t.IsDelimited) (e : s.signature.toList ++ x = t.signature.toList ++ y) :
    s = t ∧ x = y := by
  -- the first letters tell the forms apart, and only arrays and names have more letters behind them
  induction s generalizing t with
  | primitive a =>
    cases t with
    | primitive b =>
      simp only [toList_signature_primitive, List.singleton_append, List.cons.injEq] at e
      exact ⟨by rw [code_injective e.1], e.2⟩
    | void => cases a <;> simp [Primitive.code] at e
    | array _ => cases a <;> simp [Primitive.code] at e
    | reference _ => cases a <;> simp [Primitive.code] at e
  | void =>
    cases t with
    | primitive b => cases b <;> simp [Primitive.code] at e
    | void => exact ⟨rfl, by simpa using e⟩
    | array _ => simp at e
    | reference _ => simp at e
  | array a ih =>
    cases t with
    | primitive b => cases b <;> simp [Primitive.code] at e
    | void => simp at e
    | array b =>
      simp only [toList_signature_array, List.cons_append, List.cons.injEq, true_and] at e
      obtain ⟨rfl, rfl⟩ := ih (isDelimited_array.1 hs) (isDelimited_array.1 ht) e
      exact ⟨rfl, rfl⟩
    | reference _ => simp at e
  | reference m =>
    cases t with
    | primitive b => cases b <;> simp [Primitive.code] at e
    | void => simp at e
    | array _ => simp at e
    | reference n =>
      simp only [toList_signature_reference, List.cons_append, List.append_assoc,
        List.cons.injEq, true_and] at e
      obtain ⟨names, rest⟩ := append_cons_inj_of_separator (isDelimited_reference.1 hs)
        (isDelimited_reference.1 ht) e
      exact ⟨by rw [String.toList_inj.1 names], rest⟩

theorem prefixFreeOn_signature : PrefixFreeOn IsDelimited fun s => s.signature.toList :=
  fun _ _ _ _ hs ht e => (signature_append_inj hs ht e).1

theorem signature_ne_nil (s : Shape) : s.signature.toList ≠ [] := by
  cases s <;> simp

/-- The line feeds of a code come from the names inside. -/
theorem lineFeed_mem_signature_iff {s : Shape} :
    '\n' ∈ s.signature.toList ↔ ∃ name ∈ s.references, '\n' ∈ name.toList := by
  induction s with
  | primitive kind => cases kind <;> simp [references, Primitive.code]
  | void => simp [references]
  | array element ih => simp [references, ih]
  | reference name => simp [references]

/-- No code begins with the parenthesis that ends a list of parameters. -/
theorem signature_append_ne_parenthesis (s : Shape) (x y : List Char) :
    ')' :: y ≠ s.signature.toList ++ x := by
  cases s with
  | primitive kind => cases kind <;> simp [Primitive.code]
  | void => simp
  | array _ => simp
  | reference _ => simp

end Shape

namespace Declaration

/-- The shape of the result, `void` if none is given. -/
def result (d : Declaration) : Shape :=
  d.returns.getD .void

/-- The names of the classes and interfaces inside the shapes of a declaration. -/
def references (d : Declaration) : List String :=
  (d.parameters ++ d.returns.toList).flatMap Shape.references

/-- Whether the end of every name inside a declaration's shapes can be seen in its signature. -/
def IsDelimited (d : Declaration) : Prop :=
  ∀ name ∈ d.references, ';' ∉ name.toList

theorem IsDelimited.parameter {d : Declaration} (h : d.IsDelimited) {s : Shape}
    (hs : s ∈ d.parameters) : s.IsDelimited := fun name m =>
  h name (List.mem_flatMap.2 ⟨s, List.mem_append_left _ hs, m⟩)

theorem IsDelimited.result {d : Declaration} (h : d.IsDelimited) : d.result.IsDelimited := by
  unfold Declaration.result
  cases e : d.returns with
  | none => exact Shape.isDelimited_void
  | some s =>
    intro name m
    exact h name (List.mem_flatMap.2 ⟨s, List.mem_append_right _ (by simp [e]), m⟩)

theorem toList_parameterCodes (shapes : List Shape) :
    (parameterCodes shapes).toList = shapes.flatMap fun s => s.signature.toList := by
  induction shapes with
  | nil => rfl
  | cons s shapes ih => rw [parameterCodes, String.toList_append, ih, List.flatMap_cons]

theorem toList_signature (d : Declaration) :
    d.signature.toList =
      '(' :: ((d.parameters.flatMap fun s => s.signature.toList) ++
        ')' :: d.result.signature.toList) := by
  rw [signature, String.toList_append, String.toList_append, String.toList_append,
    toList_parameterCodes, List.append_assoc, List.append_assoc]
  rfl

/-- Parameters and result are determined by a signature and whatever follows. -/
theorem signature_append_inj {d e : Declaration} {x y : List Char} (hd : d.IsDelimited)
    (he : e.IsDelimited) (h : d.signature.toList ++ x = e.signature.toList ++ y) :
    d.parameters = e.parameters ∧ d.result = e.result ∧ x = y := by
  simp only [toList_signature, List.cons_append, List.append_assoc, List.cons.injEq,
    true_and] at h
  obtain ⟨parameters, rest⟩ := Shape.prefixFreeOn_signature.flatMap_append_inj
    (fun s m => hd.parameter m) (fun s m => he.parameter m)
    (fun s z _ => Shape.signature_append_ne_parenthesis s z _)
    (fun s z _ => Shape.signature_append_ne_parenthesis s z _) h
  obtain ⟨results, rest⟩ := Shape.signature_append_inj hd.result he.result (List.cons.inj rest).2
  exact ⟨parameters, results, rest⟩

/-- Parameters are determined by their codes alone. -/
theorem parameterCodes_inj {a b : List Shape} (ha : ∀ s ∈ a, s.IsDelimited)
    (hb : ∀ s ∈ b, s.IsDelimited) : parameterCodes a = parameterCodes b ↔ a = b := by
  constructor
  · intro h
    apply Shape.prefixFreeOn_signature.flatMap_inj (fun s _ => s.signature_ne_nil) ha hb
    rw [← toList_parameterCodes, ← toList_parameterCodes, h]
  · rintro rfl
    rfl

/-- Equal parameters and results make equal signatures. -/
theorem signature_congr {d e : Declaration} (hparameters : d.parameters = e.parameters)
    (hresult : d.result = e.result) : d.signature = e.signature := by
  apply String.toList_inj.1
  rw [toList_signature, toList_signature, hparameters, hresult]

/-- The line feeds of a signature come from the names inside. -/
theorem lineFeed_mem_signature_iff {d : Declaration} :
    '\n' ∈ d.signature.toList ↔ ∃ name ∈ d.references, '\n' ∈ name.toList := by
  have hresult : '\n' ∈ d.result.signature.toList ↔
      ∃ name ∈ d.returns.toList.flatMap Shape.references, '\n' ∈ name.toList := by
    rw [Shape.lineFeed_mem_signature_iff, result]
    cases d.returns with
    | none => simp [Shape.references]
    | some s => simp
  simp only [toList_signature, references, List.flatMap_append, List.mem_cons, List.mem_append,
    List.mem_flatMap, Shape.lineFeed_mem_signature_iff, Char.reduceEq, false_or, hresult]
  constructor
  · rintro (⟨s, hs, name, hname, hfeed⟩ | ⟨name, hname, hfeed⟩)
    · exact ⟨name, .inl ⟨s, hs, hname⟩, hfeed⟩
    · exact ⟨name, .inr hname, hfeed⟩
  · rintro ⟨name, ⟨s, hs, hname⟩ | hname, hfeed⟩
    · exact .inl ⟨s, hs, name, hname, hfeed⟩
    · exact .inr ⟨name, hname, hfeed⟩

/-- Signatures are equal exactly if the parameters and the results are, a result that is not given
counting as `void`. None of them is the beginning of another one, and the codes of different
parameters differ by themselves. -/
theorem signature_tells_shapes {d e : Declaration} (hd : d.IsDelimited) (he : e.IsDelimited) :
    (d.signature = e.signature ↔ d.parameters = e.parameters ∧ d.result = e.result) ∧
      (d.signature.toList <+: e.signature.toList → d.signature = e.signature) ∧
      (d.parameters ≠ e.parameters →
        parameterCodes d.parameters ≠ parameterCodes e.parameters) := by
  -- nothing can follow a signature in another one
  have hprefix : ∀ rest, d.signature.toList ++ rest = e.signature.toList →
      d.parameters = e.parameters ∧ d.result = e.result := by
    intro rest h
    rw [← List.append_nil e.signature.toList] at h
    obtain ⟨hparameters, hresult, -⟩ := signature_append_inj hd he h
    exact ⟨hparameters, hresult⟩
  refine ⟨⟨?_, ?_⟩, ?_, ?_⟩
  · intro h
    apply hprefix []
    rw [List.append_nil, h]
  · rintro ⟨hparameters, hresult⟩
    exact signature_congr hparameters hresult
  · rintro ⟨rest, h⟩
    obtain ⟨hparameters, hresult⟩ := hprefix rest h
    exact signature_congr hparameters hresult
  · intro hne h
    exact hne ((parameterCodes_inj (fun s => hd.parameter) (fun s => he.parameter)).1 h)

/-- Names that look like codes, and arrays of `void`, with a result that is not given and with one
that is: here the signatures agree, and with one more level of arrays they do not. -/
theorem signature_tells_shapes_of_names_like_codes :
    let d : Declaration := ⟨"a.B", "m", [.array .void, .reference "[LI)V"], none⟩
    let e : Declaration := ⟨"c.D", "n", [.array .void, .reference "[LI)V"], some .void⟩
    let f : Declaration := ⟨"a.B", "m", [.array (.array .void), .reference "[LI)V"], none⟩
    d.IsDelimited ∧ e.IsDelimited ∧ f.IsDelimited ∧ d.signature = e.signature ∧
      d.signature ≠ f.signature ∧ ¬ d.signature.toList <+: f.signature.toList ∧
      parameterCodes d.parameters ≠ parameterCodes f.parameters := by
  intro d e f
  have hd : d.IsDelimited := by simp [d, IsDelimited, references, Shape.references]
  have he : e.IsDelimited := by simp [e, IsDelimited, references, Shape.references]
  have hf : f.IsDelimited := by simp [f, IsDelimited, references, Shape.references]
  have hne : d.parameters ≠ f.parameters := by decide
  have hdiffer : d.signature ≠ f.signature := fun h =>
    hne ((signature_tells_shapes hd hf).1.1 h).1
  refine ⟨hd, he, hf, (signature_tells_shapes hd he).1.2 ⟨rfl, rfl⟩, hdiffer, ?_, ?_⟩
  · intro h
    exact hdiffer ((signature_tells_shapes hd hf).2.1 h)
  · exact (signature_tells_shapes hd hf).2.2 hne

/-- A semicolon inside a name ends it too early: one parameter has the code of two. -/
example :
    parameterCodes [.reference "a.B;Lc.D"] =
      parameterCodes [.reference "a.B", .reference "c.D"] := by
  decide

end Declaration

end CompilerHints
