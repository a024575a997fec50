import CompilerHints.Proofs.Blanks
import CompilerHints.Shape

/-!
# The grammar of type spellings

A spelling is a base with array marks behind it. Blanks may stand at both ends and in front of each
mark, and nowhere else. The base is `void`, which takes no marks, a keyword of a primitive, or a
dotted name that is none of these.

* `Shape.isDottedName_iff`: the names of classes and interfaces, part by part.
* `Shape.Spells`: the texts that spell a shape.
* `Shape.ofSpelling?_eq_some_iff`: they are the texts that are read as it.
* `Shape.parse_level`: a text is read mark by mark, from the last one inwards.
* `Shape.isExactParser_parse`: what is read, and how the rest is refused.
-/

namespace CompilerHints

open Text

theorem Primitive.ofKeyword?_eq_none_iff {keyword : String} :
    ofKeyword? keyword = none ↔ ∀ kind : Primitive, keyword ≠ kind.keyword := by
  constructor
  · rintro h kind rfl
    rw [ofKeyword?_keyword] at h
    cases h
  · intro h
    cases hkind : ofKeyword? keyword with
    | none => rfl
    | some kind => exact absurd (ofKeyword?_eq_some hkind) (h kind)

namespace Shape

/-! ### Dotted names -/

theorem isNameRest_of_isNameStart {c : Char} (h : isNameStart c = true) : isNameRest c = true := by
  simp only [isNameStart, isNameRest, isAlphanumeric, Bool.or_eq_true] at h ⊢
  exact h.imp (Or.imp .inl id) id

/-- A dotted name is made of dots and the characters that may follow in its parts. -/
theorem continuesName_forall {atStart : Bool} {cs : List Char}
    (h : continuesName atStart cs = true) : ∀ c ∈ cs, c = '.' ∨ isNameRest c = true := by
  induction cs generalizing atStart with
  | nil => simp
  | cons c cs ih =>
    rw [List.forall_mem_cons]
    cases atStart with
    | true =>
      rw [continuesName, Bool.and_eq_true] at h
      exact ⟨.inr (isNameRest_of_isNameStart h.1), ih h.2⟩
    | false =>
      rw [continuesName] at h
      split at h
      · next hdot => exact ⟨.inl (beq_iff_eq.1 hdot), ih h⟩
      · rw [Bool.and_eq_true] at h
        exact ⟨.inr h.1, ih h.2⟩

theorem lineFeed_not_mem_of_isDottedName {name : String} (h : isDottedName name = true) :
    '\n' ∉ name.toList := by
  intro hmem
  rcases continuesName_forall h _ hmem with e | e
  · exact absurd e (by decide)
  · exact absurd e (by decide +kernel)

theorem isNameRest_eq_false_of_isBlank {c : Char} (h : isBlank c = true) :
    isNameRest c = false := by
  have hunderscore : c ≠ '_' := by
    rintro rfl
    exact absurd h (by decide)
  have hdollar : c ≠ '$' := by
    rintro rfl
    exact absurd h (by decide)
  simp [isNameRest, isAlphanumeric_eq_false_of_isBlank h, hunderscore, hdollar]

/-- No blank and no array mark is inside a dotted name. -/
theorem not_blank_of_mem_dottedName {name : String} (h : isDottedName name = true) {c : Char}
    (hc : c ∈ name.toList) : isBlank c = false ∧ c ≠ ']' := by
  rcases continuesName_forall h c hc with rfl | hrest
  · decide
  · refine ⟨Bool.eq_false_iff.2 fun hblank => ?_, ?_⟩
    · rw [isNameRest_eq_false_of_isBlank hblank] at hrest
      cases hrest
    · rintro rfl
      exact absurd hrest (by decide +kernel)

/-- A part of a dotted name: a letter, `_` or `$`, then letters, numbers, `_` and `$`. -/
def IsNamePart (part : List Char) : Prop :=
  ∃ c rest, part = c :: rest ∧ isNameStart c = true ∧ ∀ d ∈ rest, isNameRest d = true

theorem splitOn_dot_cons (c : Char) (cs : List Char) :
    (c :: cs).splitOn '.' =
      if c = '.' then [] :: cs.splitOn '.' else (cs.splitOn '.').modifyHead (c :: ·) := by
  simp [List.splitOn_eq_splitOnP, List.splitOnP_cons_eq_if_modifyHead]

theorem not_isNamePart_nil : ¬ IsNamePart [] := by
  rintro ⟨c, rest, h, -⟩
  cases h

theorem isNamePart_cons {c : Char} {rest : List Char} :
    IsNamePart (c :: rest) ↔ isNameStart c = true ∧ ∀ d ∈ rest, isNameRest d = true := by
  constructor
  · rintro ⟨_, _, h, hstart, hrest⟩
    cases h
    exact ⟨hstart, hrest⟩
  · rintro ⟨hstart, hrest⟩
    exact ⟨c, rest, rfl, hstart, hrest⟩

/-- A name that is read from the start of a part, or from inside one. -/
theorem continuesName_iff {cs first : List Char} {more : List (List Char)}
    (h : cs.splitOn '.' = first :: more) :
    (continuesName true cs = true ↔ IsNamePart first ∧ ∀ part ∈ more, IsNamePart part) ∧
      (continuesName false cs = true ↔
        (∀ d ∈ first, isNameRest d = true) ∧ ∀ part ∈ more, IsNamePart part) := by
  induction cs generalizing first more with
  | nil =>
    obtain ⟨rfl, rfl⟩ := List.cons.inj h
    simp [continuesName, not_isNamePart_nil]
  | cons c cs ih =>
    obtain ⟨first', more', hsplit⟩ := List.exists_cons_of_ne_nil (List.splitOn_ne_nil '.' cs)
    obtain ⟨ihstart, ihrest⟩ := ih hsplit
    rw [splitOn_dot_cons, hsplit] at h
    by_cases hdot : c = '.'
    · subst hdot
      rw [if_pos rfl] at h
      obtain ⟨rfl, rfl⟩ := List.cons.inj h
      have hstart : isNameStart '.' = false := by decide +kernel
      rw [continuesName, continuesName, hstart, if_pos (by rfl), ihstart, List.forall_mem_cons]
      simp [not_isNamePart_nil]
    · rw [if_neg hdot, List.modifyHead_cons] at h
      obtain ⟨rfl, rfl⟩ := List.cons.inj h
      rw [continuesName, continuesName, if_neg (by simpa using hdot), Bool.and_eq_true,
        Bool.and_eq_true, ihrest, isNamePart_cons, List.forall_mem_cons]
      simp only [and_assoc, and_self]

theorem isDottedName_iff {name : String} :
    isDottedName name = true ↔ ∀ part ∈ name.toList.splitOn '.', IsNamePart part := by
  obtain ⟨first, more, h⟩ := List.exists_cons_of_ne_nil (List.splitOn_ne_nil '.' name.toList)
  rw [isDottedName, (continuesName_iff h).1, h, List.forall_mem_cons]

/-! ### Bases -/

/-- A base and the shape that it spells. -/
inductive IsBase : String → Shape → Prop
  | void : IsBase "void" void
  | primitive (kind : Primitive) : IsBase kind.keyword (primitive kind)
  | reference {name : String} (hparts : ∀ part ∈ name.toList.splitOn '.', IsNamePart part)
      (hvoid : name ≠ "void") (hkeyword : ∀ kind : Primitive, name ≠ kind.keyword) :
      IsBase name (reference name)

theorem ofBase?_eq_some_iff {base : String} {shape : Shape} :
    ofBase? base = some shape ↔ IsBase base shape := by
  constructor
  · intro h
    unfold ofBase? at h
    split at h
    · next hvoid =>
      cases h
      subst hvoid
      exact .void
    · next hvoid =>
      split at h
      · next kind hkind =>
        cases h
        rw [Primitive.ofKeyword?_eq_some hkind]
        exact .primitive kind
      · next hkeyword =>
        obtain ⟨hname, h⟩ := Option.ite_none_right_eq_some.1 h
        cases h
        exact .reference (isDottedName_iff.1 hname) hvoid
          (Primitive.ofKeyword?_eq_none_iff.1 hkeyword)
  · intro h
    cases h with
    | void => rfl
    | primitive kind => cases kind <;> rfl
    | reference hparts hvoid hkeyword =>
      rw [ofBase?, if_neg hvoid, Primitive.ofKeyword?_eq_none_iff.2 hkeyword]
      exact if_pos (isDottedName_iff.2 hparts)

/-- Every base is a dotted name, the keywords too. -/
theorem IsBase.isDottedName {base : String} {shape : Shape} (h : IsBase base shape) :
    isDottedName base = true := by
  cases h with
  | void => decide +kernel
  | primitive kind => cases kind <;> decide +kernel
  | reference hparts hvoid hkeyword => exact isDottedName_iff.2 hparts

/-! ### Array marks -/

/-- Array marks one behind the other, with blanks in front of each. -/
inductive AreMarks : Nat → List Char → Prop
  | none : AreMarks 0 []
  | mark {depth : Nat} {marks blanks : List Char} (hmarks : AreMarks depth marks)
      (hblanks : AreBlanks blanks) : AreMarks (depth + 1) (marks ++ blanks ++ ['[', ']'])

/-- What is taken off the end are marks and blanks. -/
theorem exists_marks (cs : List Char) :
    ∃ marks back, AreMarks (takeMarks cs).1 marks ∧ AreBlanks back ∧
      cs.reverse = (takeMarks cs).2.reverse ++ marks ++ back := by
  fun_induction takeMarks cs with
  | case1 => exact ⟨[], [], .none, areBlanks_nil, rfl⟩
  | case2 rest ih =>
    obtain ⟨marks, back, hmarks, hback, e⟩ := ih
    refine ⟨marks ++ back ++ ['[', ']'], [], .mark hmarks hback, areBlanks_nil, ?_⟩
    simp [e]
  | case3 c rest hmark hblank ih =>
    obtain ⟨marks, back, hmarks, hback, e⟩ := ih
    refine ⟨marks, back ++ [c], hmarks, hback.append (by simpa [AreBlanks] using hblank), ?_⟩
    simp [e]
  | case4 c rest hmark hblank => exact ⟨[], [], .none, areBlanks_nil, by simp⟩

theorem ne_mark_of_isBlank {c : Char} (h : isBlank c = true) : c ≠ ']' := by
  rintro rfl
  exact absurd h (by decide)

theorem takeMarks_append_blanks {blanks : List Char} (h : AreBlanks blanks) (rest : List Char) :
    takeMarks (blanks ++ rest) = takeMarks rest := by
  induction blanks with
  | nil => rfl
  | cons c blanks ih =>
    obtain ⟨hc, hblanks⟩ := List.forall_mem_cons.1 h
    rw [List.cons_append, takeMarks, if_pos hc, ih hblanks]
    exact fun _ e _ => ne_mark_of_isBlank hc e

theorem takeMarks_append_marks {depth : Nat} {marks : List Char} (h : AreMarks depth marks)
    (rest : List Char) :
    takeMarks (marks.reverse ++ rest) = ((takeMarks rest).1 + depth, (takeMarks rest).2) := by
  induction h with
  | none => rfl
  | @mark depth marks blanks hmarks hblanks ih =>
    have hreverse : (marks ++ blanks ++ ['[', ']']).reverse ++ rest =
        ']' :: '[' :: (blanks.reverse ++ (marks.reverse ++ rest)) := by
      simp
    rw [hreverse, takeMarks, takeMarks_append_blanks hblanks.reverse, ih, Nat.add_assoc]

/-- What is neither a blank nor the end of a mark stays. -/
theorem takeMarks_cons_self {c : Char} (hblank : isBlank c = false) (hmark : c ≠ ']')
    (rest : List Char) : takeMarks (c :: rest) = (0, c :: rest) := by
  rw [takeMarks, hblank, if_neg Bool.false_ne_true]
  exact fun _ e _ => hmark e

/-! ### Spellings -/

/-- A text that spells a shape: blanks, a base, array marks with blanks in front of each, and
blanks. Only `void` takes no marks. -/
inductive Spells (text : String) : Shape → Prop
  | intro {front marks back : List Char} {base : String} {shape : Shape} {depth : Nat}
      (hfront : AreBlanks front) (hbase : IsBase base shape) (hmarks : AreMarks depth marks)
      (hback : AreBlanks back) (htext : text.toList = front ++ base.toList ++ marks ++ back)
      (hvoid : shape = void → depth = 0) : Spells text (arrays depth shape)

/-- A base with blanks in front of it keeps its end when marks are taken off. -/
theorem takeMarks_base {base : String} (h : isDottedName base = true) (front : List Char) :
    takeMarks (front ++ base.toList).reverse = (0, (front ++ base.toList).reverse) := by
  have hne : base.toList ≠ [] := by
    intro e
    rw [isDottedName, e] at h
    cases h
  obtain ⟨pre, c, e⟩ : ∃ pre c, base.toList = pre ++ [c] :=
    ⟨_, _, (List.dropLast_concat_getLast hne).symm⟩
  obtain ⟨hblank, hmark⟩ := not_blank_of_mem_dottedName h (c := c) (by simp [e])
  rw [e, ← List.append_assoc, List.reverse_append, List.reverse_singleton, List.singleton_append]
  exact takeMarks_cons_self hblank hmark _

theorem trimFront_append_dottedName {front : List Char} {base : String} (hfront : AreBlanks front)
    (h : isDottedName base = true) : trimFront (front ++ base.toList) = base.toList := by
  rw [trimFront_append hfront]
  apply trimFront_eq_self
  intro c hc
  exact (not_blank_of_mem_dottedName h (List.mem_of_mem_head? hc)).1

/-- What marks and blanks are taken off of a text, and what base is left. -/
theorem takeMarks_text {text base : String} {front marks back : List Char} {depth : Nat}
    (hbase : isDottedName base = true) (hmarks : AreMarks depth marks) (hback : AreBlanks back)
    (htext : text.toList = front ++ base.toList ++ marks ++ back) :
    takeMarks text.toList.reverse = (depth, (front ++ base.toList).reverse) := by
  rw [htext, List.reverse_append, List.reverse_append, takeMarks_append_blanks hback.reverse,
    takeMarks_append_marks hmarks, takeMarks_base hbase, Nat.zero_add]

/-- The texts that spell a shape are those that are read as it. -/
theorem ofSpelling?_eq_some_iff {text : String} {shape : Shape} :
    ofSpelling? text = some shape ↔ Spells text shape := by
  constructor
  · intro h
    obtain ⟨marks, back, hmarks, hback, e⟩ := exists_marks text.toList.reverse
    obtain ⟨front, hfront, hbase⟩ := exists_trimFront (takeMarks text.toList.reverse).2.reverse
    have htext : text.toList = front ++
        (String.ofList (trimFront (takeMarks text.toList.reverse).2.reverse)).toList ++ marks ++
          back := by
      rw [String.toList_ofList, ← hbase, ← e, List.reverse_reverse]
    unfold ofSpelling? at h
    dsimp only at h
    split at h
    · next hread =>
      obtain ⟨hdepth, h⟩ := Option.ite_none_right_eq_some.1 h
      cases h
      rw [hdepth] at hmarks
      exact .intro hfront (ofBase?_eq_some_iff.1 hread) hmarks hback htext fun _ => rfl
    · next inner hvoid hread =>
      cases h
      exact .intro hfront (ofBase?_eq_some_iff.1 hread) hmarks hback htext
        fun e => absurd e hvoid
    · cases h
  · rintro ⟨hfront, hbase, hmarks, hback, htext, hvoid⟩
    have hname := hbase.isDottedName
    rw [ofSpelling?, takeMarks_text hname hmarks hback htext]
    dsimp only
    rw [List.reverse_reverse, trimFront_append_dottedName hfront hname, String.ofList_toList,
      ofBase?_eq_some_iff.2 hbase]
    split
    · next h =>
      cases h
      rw [hvoid rfl]
      rfl
    · next h =>
      cases h
      rfl
    · next h => cases h

theorem parse_eq_ok_iff {text : String} {shape : Shape} :
    parse text = .ok shape ↔ Spells text shape := by
  rw [← ofSpelling?_eq_some_iff, parse]
  cases ofSpelling? text <;> simp

/-- The text is told without the blanks at its ends. -/
theorem parse_eq_error_iff {text : String} {e : ShapeError} :
    parse text = .error e ↔ (∀ shape, ¬ Spells text shape) ∧ e.input = trim text := by
  obtain ⟨input⟩ := e
  simp only [← ofSpelling?_eq_some_iff, parse]
  cases ofSpelling? text <;> simp [eq_comm]

/-! ### One mark after the other -/

theorem arrays_ne_void {shape : Shape} (h : shape ≠ void) (depth : Nat) :
    arrays depth shape ≠ void := by
  cases depth with
  | zero => exact h
  | succ depth => simp [arrays]

/-- Blanks in front of a text neither make nor hide a mark. -/
theorem takeMarks_append_back {blanks : List Char} (h : AreBlanks blanks) (cs : List Char) :
    ∃ more, AreBlanks more ∧
      takeMarks (cs ++ blanks) = ((takeMarks cs).1, (takeMarks cs).2 ++ more) := by
  fun_induction takeMarks cs with
  | case1 =>
    refine ⟨[], areBlanks_nil, ?_⟩
    have hall := takeMarks_append_blanks h []
    rwa [List.append_nil] at hall
  | case2 rest ih =>
    obtain ⟨more, hmore, e⟩ := ih
    refine ⟨more, hmore, ?_⟩
    rw [List.cons_append, List.cons_append, takeMarks, e]
  | case3 c rest hmark hblank ih =>
    obtain ⟨more, hmore, e⟩ := ih
    refine ⟨more, hmore, ?_⟩
    rw [List.cons_append, takeMarks, if_pos hblank, e]
    exact fun _ e _ => ne_mark_of_isBlank hblank e
  | case4 c rest hmark hblank =>
    refine ⟨blanks, h, ?_⟩
    rw [List.cons_append, takeMarks, if_neg hblank]
    -- a mark across the seam would begin with a blank
    intro rest' hc hrest
    cases rest with
    | nil =>
      rw [List.nil_append] at hrest
      subst hrest
      exact absurd (h '[' List.mem_cons_self) (by decide)
    | cons d rest =>
      obtain ⟨rfl, -⟩ := List.cons.inj hrest
      exact hmark rest hc rfl

/-- A text that ends in a mark spells an array of what the text in front of the mark spells. -/
theorem ofSpelling?_level {text element : String}
    (h : (trim text).toList = element.toList ++ ['[', ']']) :
    ofSpelling? text =
      (ofSpelling? element).bind fun inner =>
        if inner = void then none else some (array inner) := by
  obtain ⟨front, back, hfront, hback, htext⟩ := exists_trim text
  obtain ⟨more, hmore, hmarks⟩ := takeMarks_append_back hfront.reverse element.toList.reverse
  have hreverse : text.toList.reverse =
      back.reverse ++ ']' :: '[' :: (element.toList.reverse ++ front.reverse) := by
    rw [htext, h]
    simp
  have hbase : trimFront ((takeMarks element.toList.reverse).2 ++ more).reverse =
      trimFront (takeMarks element.toList.reverse).2.reverse := by
    rw [List.reverse_append, trimFront_append hmore.reverse]
  rw [ofSpelling?, ofSpelling?, hreverse, takeMarks_append_blanks hback.reverse, takeMarks, hmarks]
  dsimp only
  rw [hbase]
  cases ofBase? (String.ofList (trimFront (takeMarks element.toList.reverse).2.reverse)) with
  | none => rfl
  | some base =>
    by_cases hvoid : base = void
    · subst hvoid
      dsimp only
      rw [if_neg (Nat.succ_ne_zero _)]
      split <;> rfl
    · have hinner := arrays_ne_void hvoid (takeMarks element.toList.reverse).1
      cases base with
      | void => exact absurd rfl hvoid
      | primitive kind => exact (if_neg hinner).symm
      | array element => exact (if_neg hinner).symm
      | reference name => exact (if_neg hinner).symm

/-- A text is read mark by mark from the last one inwards, and what is told of a failure on the way
is the whole text. -/
theorem parse_level {text element : String}
    (h : (trim text).toList = element.toList ++ ['[', ']']) :
    parse text =
      match parse element with
      | .error _ => .error ⟨trim text⟩
      | .ok inner => if inner = void then .error ⟨trim text⟩ else .ok (array inner) := by
  rw [parse, parse, ofSpelling?_level h]
  cases ofSpelling? element with
  | none => rfl
  | some inner =>
    dsimp only [Option.bind_some]
    by_cases hvoid : inner = void
    · rw [if_pos hvoid, if_pos hvoid]
    · rw [if_neg hvoid, if_neg hvoid]

/-- A reader that takes exactly the spellings of the grammar. -/
structure IsExactParser (parse : String → Except ShapeError Shape) : Prop where
  /-- A text is read as the shape that it spells. -/
  ok_iff : ∀ text shape, parse text = .ok shape ↔ Spells text shape
  /-- A text that spells nothing is told without the blanks at its ends. -/
  error_iff : ∀ text e, parse text = .error e ↔
    (∀ shape, ¬ Spells text shape) ∧ e.input = trim text
  /-- So it is when what cannot be read is inside array marks. -/
  level : ∀ text element, (trim text).toList = element.toList ++ ['[', ']'] →
    parse text =
      match parse element with
      | .error _ => .error ⟨trim text⟩
      | .ok inner => if inner = void then .error ⟨trim text⟩ else .ok (array inner)

theorem isExactParser_parse : IsExactParser parse where
  ok_iff _ _ := parse_eq_ok_iff
  error_iff _ _ := parse_eq_error_iff
  level _ _ := parse_level

/-- Blanks may stand in front of a mark and not inside it, and `void` has no mark. -/
example : ofSpelling? "\tint [] []\n" = some (array (array (primitive .int))) ∧
    ofSpelling? "int[ ]" = none ∧ ofSpelling? " void [] " = none := by
  decide +kernel

end Shape

end CompilerHints
