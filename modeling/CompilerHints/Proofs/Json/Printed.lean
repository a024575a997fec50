import CompilerHints.Proofs.Json.Tokens

/-!
# Reading printed JSON

What is printed for a value is read as that value, whatever stands behind it in the text as long as
that does not continue a number.

* `Json.IsPrintable`: the values whose texts are all there is to them.
* `Json.readsPrinted`: a value is read with as much fuel as its text is long.
* `Json.read?_pretty`: the text of a printable value is read as the value.
-/

namespace CompilerHints

namespace Json

/-! ### Printable values -/

/-- A value that its text tells: strings and keys are texts, and numbers are printed with all that
there is to them. -/
inductive IsPrintable : Json → Prop
  | null : IsPrintable null
  | bool (value : Bool) : IsPrintable (bool value)
  | number {value : JsonNumber} (h : IsPrintableNumber value) : IsPrintable (number value)
  | string (text : String) : IsPrintable (string text)
  | array {items : List Json} (h : ∀ item ∈ items, IsPrintable item) : IsPrintable (array items)
  | object {members : List (Option String × Json)} (hkeys : ∀ m ∈ members, m.1.isSome = true)
    (h : ∀ m ∈ members, IsPrintable m.2) : IsPrintable (object members)

/-! ### Blanks in front -/

theorem readFueled?_congr {cs ds : List Char} (h : skipSpaces cs = skipSpaces ds) (fuel : Nat) :
    readFueled? fuel cs = readFueled? fuel ds := by
  cases fuel with
  | zero => rfl
  | succ fuel => rw [readFueled?, readFueled?, h]

theorem readItems?_congr {cs ds : List Char} (h : skipSpaces cs = skipSpaces ds) (fuel : Nat) :
    readItems? fuel cs = readItems? fuel ds := by
  cases fuel with
  | zero => rfl
  | succ fuel => rw [readItems?, readItems?, readFueled?_congr h]

theorem readMember?_congr {cs ds : List Char} (h : skipSpaces cs = skipSpaces ds) (fuel : Nat) :
    readMember? fuel cs = readMember? fuel ds := by
  cases fuel with
  | zero => rfl
  | succ fuel => rw [readMember?, readMember?, h]

theorem readMembers?_congr {cs ds : List Char} (h : skipSpaces cs = skipSpaces ds) (fuel : Nat) :
    readMembers? fuel cs = readMembers? fuel ds := by
  cases fuel with
  | zero => rfl
  | succ fuel => rw [readMembers?, readMembers?, readMember?_congr h]

/-! ### Values -/

theorem toList_indent (level : Nat) :
    (indent level).toList = '\n' :: List.replicate (2 * level) ' ' := by
  simp [indent]

theorem toList_printNumber (n : JsonNumber) : (printNumber n).toList =
    (if n.isNegative then ['-'] else []) ++ ((toString n.significand).toList ++
      (if n.isIntegral then "" else "e" ++ toString n.exponent).toList) := by
  rw [printNumber, String.toList_append, String.toList_append, List.append_assoc]
  cases n.isNegative <;> rfl

theorem isSpace_eq_false_of_isDigit {c : Char} (h : c.isDigit = true) : isSpace c = false := by
  rw [← Bool.not_eq_true]
  intro hspace
  simp only [isSpace, Bool.or_eq_true, beq_iff_eq] at hspace
  rcases hspace with ((rfl | rfl) | rfl) | rfl <;> cases h

/-- What is printed for a value begins with neither a blank nor a closing bracket. -/
theorem exists_toList_prettyAt_eq_cons (v : Json) (level : Nat) :
    ∃ c cs, (v.prettyAt level).toList = c :: cs ∧ isSpace c = false ∧ c ≠ ']' := by
  cases v with
  | null =>
    rw [prettyAt]
    exact ⟨'n', _, rfl, rfl, by decide⟩
  | bool b =>
    rw [prettyAt]
    cases b
    · exact ⟨'f', _, rfl, rfl, by decide⟩
    · exact ⟨'t', _, rfl, rfl, by decide⟩
  | number n =>
    rw [prettyAt, toList_printNumber]
    cases n.isNegative with
    | true => exact ⟨'-', _, rfl, rfl, by decide⟩
    | false =>
      obtain ⟨d, ds, hdigits, hd⟩ := exists_toDigits_eq_cons n.significand
      rw [Nat.toString_eq_ofList_toDigits, String.toList_ofList, hdigits]
      refine ⟨d, _, rfl, isSpace_eq_false_of_isDigit hd, ?_⟩
      rintro rfl
      cases hd
  | string text =>
    rw [prettyAt, toList_quote]
    exact ⟨'"', _, rfl, rfl, by decide⟩
  | brokenString =>
    rw [prettyAt, toList_quote]
    exact ⟨'"', _, rfl, rfl, by decide⟩
  | array items =>
    cases items with
    | nil =>
      rw [prettyAt]
      exact ⟨'[', _, rfl, rfl, by decide⟩
    | cons item items =>
      simp only [prettyAt, String.toList_append]
      exact ⟨'[', _, rfl, rfl, by decide⟩
  | object members =>
    rcases members with - | ⟨⟨key?, value⟩, members⟩
    · rw [prettyAt]
      exact ⟨'\x7b', _, rfl, rfl, by decide⟩
    · simp only [prettyAt, String.toList_append]
      exact ⟨'\x7b', _, rfl, rfl, by decide⟩

theorem endsNumber_cons {c : Char} (h : c.isDigit = false ∧ c ≠ '.' ∧ c ≠ 'e' ∧ c ≠ 'E')
    (cs : List Char) : EndsNumber (c :: cs) := by
  rintro _ ⟨⟩
  exact h

theorem endsNumber_prettyItems (items : List Json) (level outer : Nat) (cs : List Char) :
    EndsNumber ((prettyItems level items).toList ++ ((indent outer).toList ++ cs)) := by
  cases items with
  | nil =>
    rw [toList_indent]
    exact endsNumber_cons (by decide) _
  | cons item items =>
    simp only [prettyItems, String.toList_append]
    exact endsNumber_cons (by decide) _

theorem endsNumber_prettyMembers (members : List (Option String × Json)) (level outer : Nat)
    (cs : List Char) :
    EndsNumber ((prettyMembers level members).toList ++ ((indent outer).toList ++ cs)) := by
  rcases members with - | ⟨⟨key?, value⟩, members⟩
  · rw [toList_indent]
    exact endsNumber_cons (by decide) _
  · simp only [prettyMembers, String.toList_append]
    exact endsNumber_cons (by decide) _

theorem readFueled?_printNumber {n : JsonNumber} (h : IsPrintableNumber n)
    {rest : List Char} (hrest : EndsNumber rest) (fuel : Nat) :
    readFueled? (fuel + 1) ((printNumber n).toList ++ rest) = some (number n, rest) := by
  have hread := readMagnitude?_printed h hrest
  rw [toList_printNumber, List.append_assoc, List.append_assoc]
  cases hsign : n.isNegative with
  | true =>
    rw [hsign] at hread
    rw [if_pos rfl, List.singleton_append, readFueled?, skipSpaces_cons rfl]
    exact hread
  | false =>
    rw [hsign, Nat.toString_eq_ofList_toDigits, String.toList_ofList] at hread
    rw [if_neg Bool.false_ne_true, List.nil_append, Nat.toString_eq_ofList_toDigits,
      String.toList_ofList, readFueled?]
    obtain ⟨d, ds, hdigits, hd⟩ := exists_toDigits_eq_cons n.significand
    rw [hdigits, List.cons_append, skipSpaces_cons (isSpace_eq_false_of_isDigit hd)]
    rw [hdigits, List.cons_append] at hread
    -- a digit begins no value but a number
    split
    case h_8 => exact hread
    all_goals
      next hbegin =>
        obtain rfl := (List.cons.inj hbegin).1
        cases hd

/-- With some fuel, what is printed is read as long as it is no longer than the fuel. -/
structure ReadsPrinted (fuel : Nat) : Prop where
  value : ∀ (v : Json) (level : Nat) (rest : List Char), v.IsPrintable → EndsNumber rest →
    (v.prettyAt level).toList.length ≤ fuel →
      readFueled? fuel ((v.prettyAt level).toList ++ rest) = some (v, rest)
  items : ∀ (item : Json) (items : List Json) (level outer : Nat) (rest : List Char),
    (∀ i ∈ item :: items, IsPrintable i) →
    (item.prettyAt level).toList.length + (prettyItems level items).toList.length < fuel →
      readItems? fuel ((item.prettyAt level).toList ++
        ((prettyItems level items).toList ++ ((indent outer).toList ++ ']' :: rest))) =
        some (item :: items, rest)
  member : ∀ (key : String) (v : Json) (level : Nat) (rest : List Char), v.IsPrintable →
    EndsNumber rest → (v.prettyAt level).toList.length < fuel →
      readMember? fuel ((quote key).toList ++ (':' :: ' ' :: ((v.prettyAt level).toList ++ rest))) =
        some ((some key, v), rest)
  members : ∀ (key : String) (v : Json) (members : List (Option String × Json))
    (level outer : Nat) (rest : List Char), v.IsPrintable → IsPrintable (object members) →
    (v.prettyAt level).toList.length + (prettyMembers level members).toList.length + 1 < fuel →
      readMembers? fuel ((quote key).toList ++ (':' :: ' ' :: ((v.prettyAt level).toList ++
        ((prettyMembers level members).toList ++ ((indent outer).toList ++ '\x7d' :: rest))))) =
        some ((some key, v) :: members, rest)

theorem ReadsPrinted.items_succ {fuel : Nat} (h : ReadsPrinted fuel) (item : Json)
    (items : List Json) (level outer : Nat) (rest : List Char)
    (hprintable : ∀ i ∈ item :: items, IsPrintable i)
    (hfuel : (item.prettyAt level).toList.length + (prettyItems level items).toList.length <
      fuel + 1) :
    readItems? (fuel + 1) ((item.prettyAt level).toList ++
      ((prettyItems level items).toList ++ ((indent outer).toList ++ ']' :: rest))) =
      some (item :: items, rest) := by
  rw [readItems?, h.value item level _ (hprintable item List.mem_cons_self)
    (endsNumber_prettyItems items level outer _) (by omega)]
  cases items with
  | nil => simp [prettyItems, skipSpaces_cons, isSpace]
  | cons next items =>
    simp only [prettyItems, String.toList_append, List.length_append] at hfuel
    have hnext := h.items next items level outer rest
      (fun i hi => hprintable i (List.mem_cons_of_mem _ hi)) (by simp at hfuel; omega)
    simp [prettyItems, skipSpaces_cons, isSpace,
      readItems?_congr (skipSpaces_indent level _), hnext]

theorem ReadsPrinted.member_succ {fuel : Nat} (h : ReadsPrinted fuel) (key : String) (v : Json)
    (level : Nat) (rest : List Char) (hv : v.IsPrintable) (hrest : EndsNumber rest)
    (hfuel : (v.prettyAt level).toList.length < fuel + 1) :
    readMember? (fuel + 1) ((quote key).toList ++
      (':' :: ' ' :: ((v.prettyAt level).toList ++ rest))) = some ((some key, v), rest) := by
  have hblank (cs : List Char) : skipSpaces (' ' :: cs) = skipSpaces cs := rfl
  simp [readMember?, toList_quote, skipSpaces_cons, isSpace, readString?_quoted,
    readFueled?_congr (hblank _), h.value v level rest hv hrest (by omega)]

theorem ReadsPrinted.members_succ {fuel : Nat} (h : ReadsPrinted fuel) (key : String) (v : Json)
    (members : List (Option String × Json)) (level outer : Nat) (rest : List Char)
    (hv : v.IsPrintable) (hprintable : IsPrintable (object members))
    (hfuel : (v.prettyAt level).toList.length + (prettyMembers level members).toList.length + 1 <
      fuel + 1) :
    readMembers? (fuel + 1) ((quote key).toList ++ (':' :: ' ' :: ((v.prettyAt level).toList ++
      ((prettyMembers level members).toList ++ ((indent outer).toList ++ '\x7d' :: rest))))) =
      some ((some key, v) :: members, rest) := by
  rw [readMembers?, h.member key v level _ hv (endsNumber_prettyMembers members level outer _)
    (by omega)]
  rcases members with - | ⟨⟨key?, next⟩, members⟩
  · simp [prettyMembers, skipSpaces_cons, isSpace]
  · obtain ⟨hkeys, hvalues⟩ : (∀ m ∈ (key?, next) :: members, m.1.isSome = true) ∧
        ∀ m ∈ (key?, next) :: members, IsPrintable m.2 := by
      cases hprintable with
      | object hkeys hvalues => exact ⟨hkeys, hvalues⟩
    rw [List.forall_mem_cons] at hkeys hvalues
    obtain ⟨key', rfl⟩ := Option.isSome_iff_exists.1 hkeys.1
    simp only [prettyMembers, String.toList_append, List.length_append] at hfuel
    have hnext := h.members key' next members level outer rest hvalues.1
      (.object hkeys.2 hvalues.2) (by simp at hfuel; omega)
    simp [prettyMembers, skipSpaces_cons, isSpace,
      readMembers?_congr (skipSpaces_indent level _), hnext]

theorem ReadsPrinted.value_succ {fuel : Nat} (h : ReadsPrinted fuel) (v : Json) (level : Nat)
    (rest : List Char) (hv : v.IsPrintable) (hrest : EndsNumber rest)
    (hfuel : (v.prettyAt level).toList.length ≤ fuel + 1) :
    readFueled? (fuel + 1) ((v.prettyAt level).toList ++ rest) = some (v, rest) := by
  cases hv with
  | null => simp [prettyAt, readFueled?, skipSpaces_cons, isSpace, readWord?]
  | bool b => cases b <;> simp [prettyAt, readFueled?, skipSpaces_cons, isSpace, readWord?]
  | number hn =>
    rw [prettyAt]
    exact readFueled?_printNumber hn hrest fuel
  | string text =>
    simp [prettyAt, toList_quote, readFueled?, skipSpaces_cons, isSpace, readString?_quoted]
  | @array items hitems =>
    cases items with
    | nil => simp [prettyAt, readFueled?, skipSpaces_cons, isSpace]
    | cons item items =>
      simp only [prettyAt, String.toList_append, List.length_append] at hfuel
      have hread := h.items item items (level + 1) level rest hitems (by simp at hfuel; omega)
      obtain ⟨c, cs, hprinted, hspace, hbracket⟩ := exists_toList_prettyAt_eq_cons item (level + 1)
      rw [hprinted, List.cons_append] at hread
      simp [prettyAt, readFueled?, skipSpaces_cons, isSpace, hprinted]
      simp [skipSpaces_cons hspace, hbracket, hread]
  | @object members hkeys hvalues =>
    rcases members with - | ⟨⟨key?, value⟩, members⟩
    · simp [prettyAt, readFueled?, skipSpaces_cons, isSpace]
    · rw [List.forall_mem_cons] at hkeys hvalues
      obtain ⟨key, rfl⟩ := Option.isSome_iff_exists.1 hkeys.1
      simp only [prettyAt, String.toList_append, List.length_append] at hfuel
      have hread := h.members key value members (level + 1) level rest hvalues.1
        (.object hkeys.2 hvalues.2) (by simp at hfuel; omega)
      rw [toList_quote] at hread
      simp at hread
      simp [prettyAt, readFueled?, skipSpaces_cons, isSpace, toList_quote, hread]

/-- With enough fuel, what is printed is read. -/
theorem readsPrinted (fuel : Nat) : ReadsPrinted fuel := by
  induction fuel with
  | zero =>
    refine ⟨fun v level rest _ _ hfuel => ?_, ?_, ?_, ?_⟩
    · obtain ⟨c, cs, hprinted, -⟩ := exists_toList_prettyAt_eq_cons v level
      rw [hprinted] at hfuel
      exact absurd hfuel (by simp)
    all_goals
      intros
      omega
  | succ fuel ih => exact ⟨ih.value_succ, ih.items_succ, ih.member_succ, ih.members_succ⟩

/-- The text of a printable value is read as the value. -/
theorem read?_pretty {v : Json} (h : v.IsPrintable) : read? v.pretty = some v := by
  have hread := (readsPrinted (3 * v.pretty.toList.length + 3)).value v 0 [] h
    (fun _ hc => nomatch hc) (by rw [pretty]; omega)
  rw [List.append_nil] at hread
  rw [read?, readValue?, show v.pretty = v.prettyAt 0 from rfl] at *
  rw [hread]
  rfl

end Json

end CompilerHints
