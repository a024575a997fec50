import CompilerHints.Line
import CompilerHints.Proofs.Signature

/-!
# What the text of a line tells

A line other than `quiet` begins with its keyword and a blank, and what follows is its descriptor.
No keyword has a blank or a hyphen in it, so texts and fragment names tell keywords apart.

* `Line.text_eq_quietText_iff`: only a `quiet` reads `quiet`.
* `Line.text_eq_iff`: a text tells the keyword and the descriptor.
* `Line.fragmentName_of_text_eq`, `Line.keyword_of_fragmentName_eq`: texts and fragment names.
* `Line.member_text_inj`: a text tells the directive and the declaration, if that is well formed.
* `Line.lineFeed_mem_text_iff`: where the line feeds of a text come from.
-/

namespace CompilerHints

open Text

namespace Directive

theorem blank_not_mem_keyword (k : Directive) : ' ' ∉ k.keyword.toList := by
  cases k <;> simp only [keyword] <;> decide

theorem hyphen_not_mem_keyword (k : Directive) : '-' ∉ k.keyword.toList := by
  cases k <;> simp only [keyword] <;> decide

theorem lineFeed_not_mem_keyword (k : Directive) : '\n' ∉ k.keyword.toList := by
  cases k <;> simp only [keyword] <;> decide

theorem keyword_eq_quietText_iff {k : Directive} : k.keyword = quietText ↔ k = quiet := by
  cases k <;> simp [keyword, quietText]

/-- What stands behind the descriptor of the member: the value of an option, behind a blank. -/
def suffix : Directive → String
  | option value => " " ++ value
  | _ => ""

/-- A keyword and what stands behind the descriptor tell the directive. -/
theorem eq_of_keyword_of_suffix {j k : Directive} (hk : j.keyword = k.keyword)
    (hs : j.suffix = k.suffix) : j = k := by
  cases j with
  | option v =>
    cases k with
    | option w =>
      have hvw : " " ++ v = " " ++ w := hs
      rw [String.append_right_inj] at hvw
      rw [hvw]
    | _ => simp [keyword] at hk
  | _ => cases k <;> first | rfl | simp [keyword] at hk

/-- A keyword stands for itself in a fragment name. -/
theorem nameCodes_keyword (k : Directive) : nameCodes k.keyword = k.keyword.toList := by
  cases k <;> simp only [keyword] <;> decide +kernel

end Directive

namespace Line

theorem isQuiet_iff {line : Line} : line.isQuiet = true ↔ line.directive = .quiet :=
  Directive.isQuiet_iff

@[simp] theorem isQuiet_member_eq_false_iff {d : Declaration} {k : Directive} :
    (member d k).isQuiet = false ↔ k ≠ .quiet := by
  rw [← Bool.not_eq_true, isQuiet_iff]
  rfl

theorem descriptor_member (d : Declaration) (k : Directive) :
    (member d k).descriptor = d.descriptor ++ k.suffix := by
  cases k with
  | option v => rw [descriptor, Directive.suffix, String.append_assoc]
  | _ => simp [descriptor, Directive.suffix]

theorem text_of_isQuiet {line : Line} (h : line.isQuiet = true) : line.text = quietText := by
  cases line with
  | member d k =>
    have hk : k = .quiet := isQuiet_iff.1 h
    rw [hk]
    rfl
  | quietScope _ => rfl

/-- A line other than `quiet` reads keyword, blank, descriptor. -/
theorem text_of_not_isQuiet {line : Line} (h : line.isQuiet = false) :
    line.text = line.directive.keyword ++ " " ++ line.descriptor := by
  cases line with
  | member d k =>
    cases k with
    | quiet => cases h
    | option v =>
      have hv : "option " = "option" ++ " " := rfl
      simp only [text, render, directive, Directive.keyword, descriptor, hv, String.append_assoc]
    | _ => rfl
  | quietScope _ => cases h

theorem toList_text_of_not_isQuiet {line : Line} (h : line.isQuiet = false) :
    line.text.toList = line.directive.keyword.toList ++ ' ' :: line.descriptor.toList := by
  rw [text_of_not_isQuiet h, String.toList_append, String.toList_append, List.append_assoc]
  rfl

/-- Only a `quiet` reads `quiet`. -/
theorem text_eq_quietText_iff {line : Line} : line.text = quietText ↔ line.isQuiet = true := by
  refine ⟨fun h => ?_, text_of_isQuiet⟩
  by_contra hq
  rw [Bool.not_eq_true] at hq
  have hblank : ' ' ∈ line.text.toList := by
    rw [toList_text_of_not_isQuiet hq]
    exact List.mem_append_right _ List.mem_cons_self
  rw [h] at hblank
  exact absurd hblank (by decide)

theorem text_ne_quietText {line : Line} (h : line.isQuiet = false) : line.text ≠ quietText := by
  rw [Ne, text_eq_quietText_iff, h]
  exact Bool.false_ne_true

theorem member_text_ne_quietText {d : Declaration} {k : Directive} (hk : k ≠ .quiet) :
    (member d k).text ≠ quietText :=
  text_ne_quietText (isQuiet_member_eq_false_iff.2 hk)

theorem text_ne_empty (line : Line) : line.text ≠ "" := by
  cases hq : line.isQuiet with
  | true =>
    rw [text_of_isQuiet hq]
    decide
  | false =>
    intro h
    have e := toList_text_of_not_isQuiet hq
    rw [h] at e
    exact absurd e.symm (List.append_ne_nil_of_right_ne_nil _ (List.cons_ne_nil _ _))

/-- A text tells the keyword and the descriptor. -/
theorem text_eq_iff {a b : Line} (ha : a.isQuiet = false) (hb : b.isQuiet = false) :
    a.text = b.text ↔ a.directive.keyword = b.directive.keyword ∧ a.descriptor = b.descriptor := by
  refine ⟨fun h => ?_, fun ⟨hk, hd⟩ => ?_⟩
  · -- no keyword has a blank in it, so the first blank ends the keyword
    have e := congrArg String.toList h
    rw [toList_text_of_not_isQuiet ha, toList_text_of_not_isQuiet hb] at e
    obtain ⟨hk, hd⟩ := append_cons_inj_of_separator (Directive.blank_not_mem_keyword _)
      (Directive.blank_not_mem_keyword _) e
    exact ⟨String.toList_inj.1 hk, String.toList_inj.1 hd⟩
  · rw [text_of_not_isQuiet ha, text_of_not_isQuiet hb, hk, hd]

theorem isQuiet_eq_of_text_eq {a b : Line} (h : a.text = b.text) : a.isQuiet = b.isQuiet := by
  rw [Bool.eq_iff_iff, ← text_eq_quietText_iff, ← text_eq_quietText_iff, h]

/-! ### Fragment names -/

/-- Lines other than `quiet` that read the same are kept under the same name. -/
theorem fragmentName_of_text_eq {a b : Line} (ha : a.isQuiet = false) (h : a.text = b.text) :
    a.fragmentName = b.fragmentName := by
  have hb : b.isQuiet = false := by rw [← isQuiet_eq_of_text_eq h, ha]
  obtain ⟨hk, hd⟩ := (text_eq_iff ha hb).1 h
  rw [fragmentName, fragmentName, hk, hd]

theorem toList_fragmentName (line : Line) :
    line.fragmentName.toList =
      line.directive.keyword.toList ++ '-' :: nameCodes line.descriptor := by
  rw [fragmentName, fragmentName_eq, String.toList_ofList, Directive.nameCodes_keyword]

/-- A fragment name tells the keyword. -/
theorem keyword_of_fragmentName_eq {a b : Line} (h : a.fragmentName = b.fragmentName) :
    a.directive.keyword = b.directive.keyword := by
  have e := congrArg String.toList h
  rw [toList_fragmentName, toList_fragmentName] at e
  exact String.toList_inj.1 (append_cons_inj_of_separator (Directive.hyphen_not_mem_keyword _)
    (Directive.hyphen_not_mem_keyword _) e).1

theorem isQuiet_eq_of_fragmentName_eq {a b : Line} (h : a.fragmentName = b.fragmentName) :
    a.isQuiet = b.isQuiet := by
  rw [Bool.eq_iff_iff, isQuiet_iff, isQuiet_iff, ← Directive.keyword_eq_quietText_iff,
    ← Directive.keyword_eq_quietText_iff, keyword_of_fragmentName_eq h]

end Line

/-! ### Well-formed declarations -/

/-- The names inside a declaration avoid the characters that a line gives a meaning to: owners end
at a colon, member names at a blank, names of types at a semicolon, and lines at a line feed. -/
structure Declaration.IsWellFormed (d : Declaration) : Prop where
  owner : ':' ∉ d.owner.toList ∧ '\n' ∉ d.owner.toList
  name : ' ' ∉ d.name.toList ∧ '\n' ∉ d.name.toList
  references : ∀ name ∈ d.references, ';' ∉ name.toList ∧ '\n' ∉ name.toList

theorem Declaration.IsWellFormed.isDelimited {d : Declaration} (h : d.IsWellFormed) :
    d.IsDelimited := fun name m => (h.references name m).1

namespace Declaration

theorem toList_descriptor (d : Declaration) :
    d.descriptor.toList =
      d.owner.toList ++ ':' :: (':' :: (d.name.toList ++ ' ' :: d.signature.toList)) := by
  simp only [descriptor, String.toList_append, List.append_assoc]
  rfl

/-- A declaration is determined by its descriptor and whatever follows, a result that is not given
counting as `void`. -/
theorem descriptor_append_inj {d e : Declaration} {x y : List Char} (hd : d.IsWellFormed)
    (he : e.IsWellFormed) (h : d.descriptor.toList ++ x = e.descriptor.toList ++ y) :
    (d.owner = e.owner ∧ d.name = e.name ∧ d.parameters = e.parameters ∧ d.result = e.result) ∧
      x = y := by
  simp only [toList_descriptor, List.append_assoc, List.cons_append] at h
  obtain ⟨owners, rest⟩ := append_cons_inj_of_separator hd.owner.1 he.owner.1 h
  obtain ⟨names, rest⟩ :=
    append_cons_inj_of_separator hd.name.1 he.name.1 (List.cons.inj rest).2
  obtain ⟨parameters, results, rest⟩ := signature_append_inj hd.isDelimited he.isDelimited rest
  exact ⟨⟨String.toList_inj.1 owners, String.toList_inj.1 names, parameters, results⟩, rest⟩

/-- Equal parts make equal descriptors. -/
theorem descriptor_congr {d e : Declaration}
    (h : d.owner = e.owner ∧ d.name = e.name ∧ d.parameters = e.parameters ∧
      d.result = e.result) : d.descriptor = e.descriptor := by
  obtain ⟨owners, names, parameters, results⟩ := h
  unfold result at results
  rw [descriptor, descriptor, signature, signature, owners, names, parameters, results]

end Declaration

namespace Line

/-- A text tells the directive and the declaration, if that is well formed. -/
theorem member_text_inj {d e : Declaration} {j k : Directive} (hd : d.IsWellFormed)
    (he : e.IsWellFormed) (hj : j ≠ .quiet) (hk : k ≠ .quiet)
    (h : (member d j).text = (member e k).text) :
    (d.owner = e.owner ∧ d.name = e.name ∧ d.parameters = e.parameters ∧ d.result = e.result) ∧
      j = k := by
  obtain ⟨keywords, descriptors⟩ := (text_eq_iff (isQuiet_member_eq_false_iff.2 hj)
    (isQuiet_member_eq_false_iff.2 hk)).1 h
  rw [descriptor_member, descriptor_member] at descriptors
  have e := congrArg String.toList descriptors
  rw [String.toList_append, String.toList_append] at e
  obtain ⟨declarations, suffixes⟩ := Declaration.descriptor_append_inj hd he e
  exact ⟨declarations, Directive.eq_of_keyword_of_suffix keywords (String.toList_inj.1 suffixes)⟩

/-! ### Line feeds -/

/-- The line feeds of a text come from the names of the member, of its owner and of the types in its
signature, and from the value of an option. -/
theorem lineFeed_mem_text_iff {d : Declaration} {k : Directive} (hk : k ≠ .quiet) :
    '\n' ∈ (member d k).text.toList ↔
      '\n' ∈ d.owner.toList ∨ '\n' ∈ d.name.toList ∨
        (∃ name ∈ d.references, '\n' ∈ name.toList) ∨ '\n' ∈ k.suffix.toList := by
  have hkeyword := Directive.lineFeed_not_mem_keyword k
  rw [toList_text_of_not_isQuiet (isQuiet_member_eq_false_iff.2 hk), descriptor_member,
    String.toList_append, Declaration.toList_descriptor]
  simp only [directive, List.mem_append, List.mem_cons, hkeyword, false_or, or_assoc,
    Declaration.lineFeed_mem_signature_iff, Char.reduceEq]

end Line

end CompilerHints
