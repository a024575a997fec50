import CompilerHints.Json.Printer
import CompilerHints.Json.Reader

/-!
# Reading printed strings and numbers

The strings and the numbers that are printed for values, read again from the front of a text.

* `Json.skipSpaces_indent`: the blanks in front of a line.
* `Json.readString?_quoted`: a string is read up to its closing quote.
* `Json.readMagnitude?_printed`: a number is read up to its last digit.
* `JsonNumber.isFinite_of_lt`: numbers that need no more than 64 bits.
-/

namespace CompilerHints

namespace Json

/-! ### Blanks -/

theorem isSpace_of_mem_indent {level : Nat} {c : Char} (h : c ∈ (indent level).toList) :
    isSpace c = true := by
  simp only [indent, String.toList_append, String.toList_ofList, List.mem_append] at h
  rcases h with h | h
  · rw [List.mem_singleton.1 h]
    rfl
  · rw [List.eq_of_mem_replicate h]
    rfl

@[simp] theorem skipSpaces_indent (level : Nat) (cs : List Char) :
    skipSpaces ((indent level).toList ++ cs) = skipSpaces cs :=
  List.dropWhile_append_of_pos fun _ h => isSpace_of_mem_indent h

theorem skipSpaces_cons {c : Char} (h : isSpace c = false) (cs : List Char) :
    skipSpaces (c :: cs) = c :: cs := by
  rw [skipSpaces, List.dropWhile_cons, h, if_neg Bool.false_ne_true]

/-! ### Strings -/

/-- How a character of a string is written: control characters without a letter of their own by
their number. -/
def partOf (c : Char) : StringPart :=
  if c ∈ ['\x08', '\x0c', '\n', '\r', '\t'] ∨ 0x20 ≤ c.toNat then .char c else .unit c.toNat

theorem hexUnit?_digitChar {n : Nat} (h : n < 0x20) :
    hexUnit? '0' '0' (Nat.digitChar (n / 16)) (Nat.digitChar (n % 16)) = some n := by
  have hall : ∀ n : Fin 0x20,
      hexUnit? '0' '0' (Nat.digitChar (n.val / 16)) (Nat.digitChar (n.val % 16)) = some n.val := by
    decide +kernel
  exact hall ⟨n, h⟩

/-- What is written for a character is read as one part. -/
theorem readParts?_escapeChar (c : Char) (rest : List Char) :
    readParts? (escapeChar c ++ rest) =
      (readParts? rest).map fun (parts, rest) => (partOf c :: parts, rest) := by
  by_cases hletter : c ∈ ['"', '\\', '\x08', '\x0c', '\n', '\r', '\t']
  · simp only [List.mem_cons, List.not_mem_nil, or_false] at hletter
    rcases hletter with rfl | rfl | rfl | rfl | rfl | rfl | rfl <;>
      cases hrest : readParts? rest <;> simp [escapeChar, readParts?, escaped?, hrest, partOf]
  · simp only [List.mem_cons, List.not_mem_nil, or_false, not_or] at hletter
    obtain ⟨hquote, hslash, hb, hf, hn, hr, ht⟩ := hletter
    by_cases hcontrol : c.toNat < 0x20
    · have hge : ¬ 0x20 ≤ c.toNat := by omega
      cases hrest : readParts? rest <;>
        simp [escapeChar, hquote, hslash, hb, hf, hn, hr, ht, hcontrol, hge, readParts?,
          hexUnit?_digitChar hcontrol, hrest, partOf]
    · have hge : 0x20 ≤ c.toNat := by omega
      simp [escapeChar, hquote, hslash, hb, hf, hn, hr, ht, hcontrol, hge, readParts?, partOf]

theorem readParts?_escaped (cs rest : List Char) :
    readParts? (cs.flatMap escapeChar ++ '"' :: rest) = some (cs.map partOf, rest) := by
  induction cs with
  | nil => rfl
  | cons c cs ih =>
    rw [List.flatMap_cons, List.append_assoc, readParts?_escapeChar, ih]
    rfl

/-- A unit below the surrogates stands for a character by itself. -/
theorem joinParts?_unit {n : Nat} (h : n < 0xD800) (parts : List StringPart) :
    joinParts? (.unit n :: parts) = (joinParts? parts).map (Char.ofNat n :: ·) := by
  have hlow : ¬ 0xD800 ≤ n := by omega
  have hhigh : ¬ 0xDC00 ≤ n := by omega
  cases parts with
  | nil => simp [joinParts?, hlow]
  | cons part parts => cases part <;> simp [joinParts?, hlow, hhigh]

theorem joinParts?_map_partOf (cs : List Char) : joinParts? (cs.map partOf) = some cs := by
  induction cs with
  | nil => rfl
  | cons c cs ih =>
    rw [List.map_cons, partOf]
    split
    · rw [joinParts?, ih]
      rfl
    · next h =>
      have hlt : c.toNat < 0x20 := by
        have := (not_or.1 h).2
        omega
      rw [joinParts?_unit (by omega), ih, Char.ofNat_toNat]
      rfl

theorem readString?_quoted (text : String) (rest : List Char) :
    readString? (text.toList.flatMap escapeChar ++ '"' :: rest) = some (some text, rest) := by
  simp [readString?, readParts?_escaped, joinParts?_map_partOf]

theorem toList_quote (text : String) :
    (quote text).toList = '"' :: (text.toList.flatMap escapeChar ++ ['"']) := by
  simp [quote]

/-! ### Numbers -/

/-- Characters that do not continue a number in front of them. -/
def EndsNumber (cs : List Char) : Prop :=
  ∀ c ∈ cs.head?, c.isDigit = false ∧ c ≠ '.' ∧ c ≠ 'e' ∧ c ≠ 'E'

theorem takeDigits_append {digits rest : List Char} (h : ∀ c ∈ digits, c.isDigit = true)
    (hrest : ∀ c ∈ rest.head?, c.isDigit = false) :
    takeDigits (digits ++ rest) = (digits, rest) := by
  rw [takeDigits, List.takeWhile_append_of_pos h, List.dropWhile_append_of_pos h]
  cases rest with
  | nil => simp
  | cons c rest => simp [hrest c rfl]

theorem digitsValue_toDigits (n : Nat) : digitsValue (Nat.toDigits 10 n) = n := by
  have h := @Nat.ofDigitChars_ten_toDigits n
  simpa only [Nat.ofDigitChars_eq_foldl, digitsValue, Nat.mul_comm 10] using h

/-- A number of more than one digit does not begin with a zero. -/
theorem head?_toDigits_ne {n : Nat} (h : n ≠ 0) : (Nat.toDigits 10 n).head? ≠ some '0' := by
  induction n using Nat.strongRecOn with
  | ind n ih =>
    rw [Nat.toDigits_eq_if (by decide)]
    split
    · simpa using h
    · rw [List.head?_append, Option.or_of_isSome (by simp [Nat.toDigits_ne_nil])]
      exact ih (n / 10) (by omega) (by omega)

theorem takeDigits_toDigits (n : Nat) {rest : List Char}
    (hrest : ∀ c ∈ rest.head?, c.isDigit = false) :
    takeDigits (Nat.toDigits 10 n ++ rest) = (Nat.toDigits 10 n, rest) :=
  takeDigits_append (fun _ h => Nat.isDigit_of_mem_toDigits (by decide) (by decide) h) hrest

theorem readWhole?_toDigits (n : Nat) {rest : List Char}
    (hrest : ∀ c ∈ rest.head?, c.isDigit = false) :
    readWhole? (Nat.toDigits 10 n ++ rest) = some (Nat.toDigits 10 n, rest) := by
  rw [readWhole?, takeDigits_toDigits n hrest]
  split
  · next h => exact absurd (Prod.mk.inj h).1 Nat.toDigits_ne_nil
  · next h =>
    have hzero : n = 0 := by
      by_cases hn : n = 0
      · exact hn
      · exact absurd (by rw [(Prod.mk.inj h).1]; rfl) (head?_toDigits_ne hn)
    subst hzero
    cases (Prod.mk.inj h).1
  · rfl

/-- The first of the digits of a number. -/
theorem exists_toDigits_eq_cons (n : Nat) :
    ∃ d ds, Nat.toDigits 10 n = d :: ds ∧ d.isDigit = true := by
  cases h : Nat.toDigits 10 n with
  | nil => exact absurd h Nat.toDigits_ne_nil
  | cons d ds =>
    have hd : d ∈ Nat.toDigits 10 n := h ▸ List.mem_cons_self
    exact ⟨d, ds, rfl, Nat.isDigit_of_mem_toDigits (by decide) (by decide) hd⟩

theorem toDigits_append_ne {c : Char} (hc : c.isDigit = false) (n : Nat) (rest cs : List Char) :
    Nat.toDigits 10 n ++ rest ≠ c :: cs := by
  obtain ⟨d, ds, hdigits, hd⟩ := exists_toDigits_eq_cons n
  rw [hdigits, List.cons_append]
  rintro h
  rw [(List.cons.inj h).1, hc] at hd
  cases hd

/-- The digits of an exponent are read up to the last one. -/
theorem readSigned?_printed (e : Int) {rest : List Char}
    (hrest : ∀ c ∈ rest.head?, c.isDigit = false) :
    readSigned? ((toString e).toList ++ rest) = some (e, rest) := by
  cases e with
  | ofNat n =>
    have hprinted : (toString (Int.ofNat n)).toList = Nat.toDigits 10 n := String.toList_ofList
    rw [hprinted, readSigned?, takeDigits_toDigits n hrest]
    · split
      · next h => exact absurd (Prod.mk.inj h).1 Nat.toDigits_ne_nil
      · next h =>
        obtain ⟨rfl, rfl⟩ := Prod.mk.inj h
        simp [digitsValue_toDigits]
    · exact fun _ h => toDigits_append_ne rfl _ _ _ h
    · exact fun _ h => toDigits_append_ne rfl _ _ _ h
  | negSucc n =>
    have hprinted : (toString (Int.negSucc n)).toList = '-' :: Nat.toDigits 10 (n + 1) := by
      change ("-" ++ (n + 1).repr).toList = _
      rw [String.toList_append, Nat.toList_repr]
      rfl
    rw [hprinted, List.cons_append, readSigned?, takeDigits_toDigits (n + 1) hrest]
    split
    · next h => exact absurd (Prod.mk.inj h).1 Nat.toDigits_ne_nil
    · next h =>
      obtain ⟨rfl, rfl⟩ := Prod.mk.inj h
      simp [digitsValue_toDigits, Int.negSucc_eq]

theorem readFraction?_eq_nil {cs : List Char} (h : ∀ c ∈ cs.head?, c ≠ '.') :
    readFraction? cs = some ([], cs) := by
  unfold readFraction?
  split
  · exact absurd rfl (h '.' rfl)
  · rfl

theorem readExponent?_eq_none {cs : List Char} (h : ∀ c ∈ cs.head?, c ≠ 'e' ∧ c ≠ 'E') :
    readExponent? cs = some (none, cs) := by
  unfold readExponent?
  split
  · exact absurd rfl (h 'e' rfl).1
  · exact absurd rfl (h 'E' rfl).2
  · rfl

/-- A number that is printed with all that there is to it: there are no digits behind a point, and
an exponent only where it is printed. -/
structure IsPrintableNumber (n : JsonNumber) : Prop where
  fractionLength : n.fractionLength = 0
  exponent : n.isIntegral = true → n.exponent = 0

/-- A number is read up to its last digit. -/
theorem readMagnitude?_printed {n : JsonNumber} (h : IsPrintableNumber n)
    {rest : List Char} (hrest : EndsNumber rest) :
    readMagnitude? n.isNegative ((toString n.significand).toList ++
      ((if n.isIntegral then "" else "e" ++ toString n.exponent).toList ++ rest)) =
      some (number n, rest) := by
  have hdigits : (toString n.significand).toList = Nat.toDigits 10 n.significand :=
    String.toList_ofList
  have hdigit : ∀ c ∈ rest.head?, c.isDigit = false := fun c hc => (hrest c hc).1
  rw [hdigits]
  obtain ⟨hfraction, hpower⟩ := h
  obtain ⟨⟨isNegative, significand, exponent⟩, isIntegral, fractionLength⟩ := n
  obtain rfl : fractionLength = 0 := hfraction
  cases isIntegral with
  | true =>
    obtain rfl : exponent = 0 := hpower rfl
    simp [readMagnitude?, readWhole?_toDigits _ hdigit,
      readFraction?_eq_nil fun c hc => (hrest c hc).2.1,
      readExponent?_eq_none fun c hc => (hrest c hc).2.2, digitsValue_toDigits]
  | false =>
    have hexponent : ("e" ++ toString exponent).toList ++ rest =
        'e' :: ((toString exponent).toList ++ rest) := by
      rw [String.toList_append]
      rfl
    simp only [Bool.false_eq_true, if_false, hexponent, readMagnitude?]
    rw [readWhole?_toDigits _ (by simp), Option.bind_eq_bind, Option.bind_some,
      readFraction?_eq_nil (by simp), Option.bind_eq_bind, Option.bind_some, readExponent?,
      readSigned?_printed _ hdigit]
    simp [digitsValue_toDigits]

end Json

/-! ### Numbers as doubles -/

/-- Digits are all taken where 64 bits can hold what they come to. -/
theorem keepDigits_of_lt {digits : List Char} {taken : Nat}
    (h : digits.foldl (fun n c => n * 10 + digitsValue [c]) taken < Nat.pow 2 64) :
    keepDigits taken digits =
      (digits.foldl (fun n c => n * 10 + digitsValue [c]) taken, digits.length) := by
  induction digits generalizing taken with
  | nil => rfl
  | cons c rest ih =>
    -- further digits only add to a number
    have hle (n : Nat) : n ≤ rest.foldl (fun n c => n * 10 + digitsValue [c]) n := by
      clear ih h
      induction rest generalizing n with
      | nil => exact Nat.le_refl n
      | cons c rest ih => exact Nat.le_trans (by omega) (ih (n * 10 + digitsValue [c]))
    rw [List.foldl_cons] at h ⊢
    rw [keepDigits, if_pos (Nat.lt_of_le_of_lt (hle _) h), ih h]
    rfl

/-- Rounding at most doubles a number. -/
theorem roundToDouble_le (n : Nat) : roundToDouble n ≤ 2 * n := by
  have hfloor := Nat.div_mul_le_self n (Nat.pow 2 (n.log2 - 52))
  unfold roundToDouble
  dsimp only
  split
  · omega
  · next hup =>
    by_cases hn : n = 0
    · subst hn
      exact absurd (by decide) hup
    · have hplace : Nat.pow 2 (n.log2 - 52) ≤ n :=
        Nat.le_trans (Nat.pow_le_pow_right (by decide) (Nat.sub_le _ _)) (Nat.log2_self_le hn)
      rw [Nat.add_mul]
      omega

namespace JsonNumber

/-- A natural number that 64 bits can hold is read as a finite double. -/
theorem isFinite_of_lt {n : Nat} (h : n < Nat.pow 2 64) :
    ({ significand := n } : JsonNumber).isFinite = true := by
  have hdigits : digits { significand := n } = (Nat.toDigits 10 n, []) := by
    obtain ⟨d, ds, hds, -⟩ := Json.exists_toDigits_eq_cons n
    simp [digits, hds, List.leftpad]
  have hkept : keepDigits 0 (Nat.toDigits 10 n) = (n, (Nat.toDigits 10 n).length) := by
    have hvalue : (Nat.toDigits 10 n).foldl (fun n c => n * 10 + digitsValue [c]) 0 = n := by
      simpa [digitsValue] using Json.digitsValue_toDigits n
    rw [keepDigits_of_lt (by rw [hvalue]; exact h), hvalue]
  have hpower : (0 : Int) + (0 : Nat) +
      ((Nat.toDigits 10 n).length - (Nat.toDigits 10 n).length : Nat) - (0 : Nat) = .ofNat 0 := by
    simp
  have hone : roundToDouble (Nat.pow 10 0) = 1 := by decide
  have hbound : 2 * Nat.pow 2 64 < Decimal.overflowBound := by decide +kernel
  have hround := roundToDouble_le n
  simp only [isFinite, hdigits, hkept, keepDigits, hpower, hone, Nat.mul_one, Bool.or_eq_true,
    Bool.and_eq_true, decide_eq_true_eq]
  exact .inr ⟨Nat.zero_le _, by omega⟩

/-- Beyond 64 bits, what is read need not be the nearest double: here digits and power are rounded
one by one, and what they come to is too great. -/
example :
    let n : JsonNumber := { significand := 17976931348623158, exponent := 292, isIntegral := false }
    n.isFinite = false ∧ n.toDecimal.isFinite = true := by
  decide +kernel

end JsonNumber

end CompilerHints
