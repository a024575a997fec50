import CompilerHints.Processing.Verdict
import CompilerHints.Proofs.Collector

/-!
# Fragments of two options of one member

The value of an option ends the descriptor of its line, so two options of one member have fragment
names that differ in the contributions of their values. These run together without delimiters: the
digits that are written for one character may be characters of another value. Two values are sure
to be told apart where the contributions do not begin alike at the first place where they differ.

* `codesOverlap`: one contribution begins the other.
* `partClearly`, `nameCodes_ne_of_partClearly`: values that are told apart.
* `HaveOneForm`, `HaveOneForm.partClearly`: values that are alike up to the choice of characters.
* `Line.fragmentName_option_eq_iff`, `Line.holds_option_iff`: two options of one member.
-/

namespace CompilerHints

open Text

/-! ### Contributions of single characters -/

theorem nameCode_of_keptInName {c : Char} (h : keptInName c = true) : nameCode c = [c] :=
  if_pos h

theorem hexDigits_ne_nil (n : Nat) : hexDigits n ≠ [] := by
  rw [hexDigits, Nat.toDigits_eq_if (by decide)]
  split
  · exact List.cons_ne_nil _ _
  · exact List.concat_ne_nil _ _

theorem nameCode_ne_nil (c : Char) : nameCode c ≠ [] := by
  unfold nameCode
  split
  · exact List.cons_ne_nil _ _
  · unfold utf16Units
    split <;> simp [hexDigits_ne_nil]

/-- Whether the contribution of one character begins that of another, or the other way round. -/
def codesOverlap (c d : Char) : Bool :=
  (nameCode c).isPrefixOf (nameCode d) || (nameCode d).isPrefixOf (nameCode c)

theorem codesOverlap_of_append_eq {c d : Char} {x y : List Char}
    (h : nameCode c ++ x = nameCode d ++ y) : codesOverlap c d = true := by
  rw [codesOverlap, Bool.or_eq_true, List.isPrefixOf_iff_prefix, List.isPrefixOf_iff_prefix]
  exact List.prefix_or_prefix_of_prefix ⟨x, h⟩ (List.prefix_append _ y)

/-- Different contributions of the same length do not begin one another. -/
theorem codesOverlap_eq_false_of_length {c d : Char} (hne : nameCode c ≠ nameCode d)
    (hlength : (nameCode c).length = (nameCode d).length) : codesOverlap c d = false := by
  rw [← Bool.not_eq_true, codesOverlap, Bool.or_eq_true, List.isPrefixOf_iff_prefix,
    List.isPrefixOf_iff_prefix]
  rintro (h | h)
  · exact hne (h.eq_of_length hlength)
  · exact hne (h.eq_of_length hlength.symm).symm

theorem codesOverlap_eq_false_of_kept {c d : Char} (hc : keptInName c = true)
    (hd : keptInName d = true) (hne : c ≠ d) : codesOverlap c d = false := by
  refine codesOverlap_eq_false_of_length ?_ ?_
  · rw [nameCode_of_keptInName hc, nameCode_of_keptInName hd]
    exact fun h => hne (List.singleton_inj.1 h)
  · rw [nameCode_of_keptInName hc, nameCode_of_keptInName hd]
    rfl

/-- A character for which two hexadecimal digits are written. -/
def hasTwoDigits (c : Char) : Bool :=
  !keptInName c && (16 ≤ c.toNat && c.toNat < 256)

theorem nameCode_of_hasTwoDigits {c : Char} (h : hasTwoDigits c = true) :
    nameCode c = [(c.toNat / 16).digitChar, (c.toNat % 16).digitChar] := by
  simp only [hasTwoDigits, Bool.and_eq_true, Bool.not_eq_true', decide_eq_true_eq] at h
  obtain ⟨hkept, hfrom, hto⟩ := h
  have hsize : c.toNat < UInt16.size := Nat.lt_trans hto (by decide)
  rw [nameCode, if_neg (by rw [hkept]; exact Bool.false_ne_true), utf16Units,
    if_pos (by omega), List.flatMap_singleton, UInt16.toNat_ofNat_of_lt' hsize]
  rw [hexDigits, Nat.toDigits_eq_if (by decide), if_neg (by omega),
    Nat.toDigits_eq_if (by decide), if_pos (by omega)]
  rfl

theorem digitChar_inj {m n : Nat} (hm : m < 16) (hn : n < 16) (h : m.digitChar = n.digitChar) :
    m = n := by
  have hall : ∀ i j : Fin 16, i.val.digitChar = j.val.digitChar → i = j := by decide +kernel
  exact Fin.mk.inj (hall ⟨m, hm⟩ ⟨n, hn⟩ h)

theorem codesOverlap_eq_false_of_hasTwoDigits {c d : Char} (hc : hasTwoDigits c = true)
    (hd : hasTwoDigits d = true) (hne : c ≠ d) : codesOverlap c d = false := by
  have hcode := nameCode_of_hasTwoDigits hc
  have hcode' := nameCode_of_hasTwoDigits hd
  refine codesOverlap_eq_false_of_length (fun h => hne (Char.toNat_inj.1 ?_))
    (by rw [hcode, hcode']; rfl)
  simp only [hasTwoDigits, Bool.and_eq_true, decide_eq_true_eq] at hc hd
  rw [hcode, hcode'] at h
  obtain ⟨hhigh, hlow⟩ := List.cons.inj h
  have hhigh := digitChar_inj (by omega) (by omega) hhigh
  have hlow := digitChar_inj (by omega) (by omega) (List.singleton_inj.1 hlow)
  omega

/-! ### Values that are told apart -/

/-- Whether the contributions of two texts do not begin alike at the first place where the texts
differ. A text that ends there contributes nothing, and the other one does. -/
def partClearly : List Char → List Char → Bool
  | [], [] => false
  | [], _ :: _ => true
  | _ :: _, [] => true
  | c :: v, d :: w => if c = d then partClearly v w else !codesOverlap c d

theorem flatMap_nameCode_ne_of_partClearly {v w : List Char} (h : partClearly v w = true) :
    v.flatMap nameCode ≠ w.flatMap nameCode := by
  induction v generalizing w with
  | nil =>
    cases w with
    | nil => cases h
    | cons d w => exact fun e => nameCode_ne_nil d (List.append_eq_nil_iff.1 e.symm).1
  | cons c v ih =>
    cases w with
    | nil => exact fun e => nameCode_ne_nil c (List.append_eq_nil_iff.1 e).1
    | cons d w =>
      intro e
      rw [List.flatMap_cons, List.flatMap_cons] at e
      rw [partClearly] at h
      split at h
      · next heq =>
        subst heq
        exact ih h (List.append_cancel_left e)
      · rw [codesOverlap_of_append_eq e] at h
        cases h

theorem nameCodes_ne_of_partClearly {v w : String} (h : partClearly v.toList w.toList = true) :
    nameCodes v ≠ nameCodes w :=
  flatMap_nameCode_ne_of_partClearly h

/-- Different texts part clearly if different characters at one place of both never begin alike. -/
theorem partClearly_of_zip {v w : List Char} (hne : v ≠ w)
    (h : ∀ p ∈ v.zip w, p.1 ≠ p.2 → codesOverlap p.1 p.2 = false) : partClearly v w = true := by
  induction v generalizing w with
  | nil =>
    cases w with
    | nil => exact absurd rfl hne
    | cons d w => rfl
  | cons c v ih =>
    cases w with
    | nil => rfl
    | cons d w =>
      rw [List.zip_cons_cons, List.forall_mem_cons] at h
      rw [partClearly]
      split
      · next heq =>
        subst heq
        exact ih (fun e => hne (e ▸ rfl)) h.2
      · next hcd => rw [h.1 hcd, Bool.not_false]

/-- Where both texts go on, both have a character that is kept, or both have one for which two
digits are written. -/
def HaveOneForm (v w : List Char) : Prop :=
  ∀ p ∈ v.zip w, (keptInName p.1 = true ∧ keptInName p.2 = true) ∨
    (hasTwoDigits p.1 = true ∧ hasTwoDigits p.2 = true)

theorem HaveOneForm.partClearly {v w : List Char} (h : HaveOneForm v w) (hne : v ≠ w) :
    partClearly v w = true :=
  partClearly_of_zip hne fun p hp hchars => (h p hp).elim
    (fun hkept => codesOverlap_eq_false_of_kept hkept.1 hkept.2 hchars)
    (fun hdigits => codesOverlap_eq_false_of_hasTwoDigits hdigits.1 hdigits.2 hchars)

theorem haveOneForm_of_kept {v w : List Char} (hv : ∀ c ∈ v, keptInName c = true)
    (hw : ∀ c ∈ w, keptInName c = true) : HaveOneForm v w := fun p hp =>
  .inl ⟨hv p.1 (List.of_mem_zip hp).1, hw p.2 (List.of_mem_zip hp).2⟩

/-! ### Two options of one member -/

namespace Line

/-- Only the values tell the fragment names of two options of one member apart. -/
theorem fragmentName_option_eq_iff (d : Declaration) (v w : String) :
    (member d (.option v)).fragmentName = (member d (.option w)).fragmentName ↔
      nameCodes v = nameCodes w := by
  rw [← String.toList_inj, toList_fragmentName, toList_fragmentName, descriptor_member,
    descriptor_member, Directive.suffix, Directive.suffix]
  simp only [directive, Directive.keyword, nameCodes_append, List.append_cancel_left_eq,
    List.cons.injEq, true_and]

/-- What two options of one member have to do with each other in an incremental build. -/
structure SharesFragments (d : Declaration) (v w : String) : Prop where
  /-- They share a fragment exactly if the contributions of their values agree. -/
  name_eq_iff : (member d (.option v)).fragmentName = (member d (.option w)).fragmentName ↔
    nameCodes v = nameCodes w
  apart_of_partClearly : partClearly v.toList w.toList = true →
    (member d (.option v)).fragmentName ≠ (member d (.option w)).fragmentName
  apart_of_oneForm : HaveOneForm v.toList w.toList →
    (member d (.option v)).fragmentName ≠ (member d (.option w)).fragmentName
  apart_of_kept : (∀ c ∈ v.toList, keptInName c = true) → (∀ c ∈ w.toList, keptInName c = true) →
    (member d (.option v)).fragmentName ≠ (member d (.option w)).fragmentName
  /-- The fragment of the first is lost when the second is accepted, exactly if they share it. -/
  holds_iff : ∀ {dir : FragmentDirectory} {c c' : Collector} {fs fs' : FileSystem} {isNew : Bool},
    c.fragments? = some dir → (member d (.option w)).text ∉ c.commands.lines →
    dir.Holds fs (member d (.option v)) →
    c.accept (member d (.option w)) fs = (.ok isNew, c', fs') →
    dir.Holds fs' (member d (.option w)) ∧
      (dir.Holds fs' (member d (.option v)) ↔
        (member d (.option v)).fragmentName ≠ (member d (.option w)).fragmentName)

theorem member_option_text_inj {d : Declaration} {v w : String}
    (h : (member d (.option v)).text = (member d (.option w)).text) : v = w := by
  have hdescriptor := ((text_eq_iff rfl rfl).1 h).2
  rw [descriptor_member, descriptor_member, String.append_right_inj] at hdescriptor
  exact (String.append_right_inj _).1 hdescriptor

/-- Accepting one of two options loses the other exactly if they share a fragment. -/
theorem holds_option_iff {d : Declaration} {v w : String} (hne : v ≠ w) {dir : FragmentDirectory}
    {c c' : Collector} {fs fs' : FileSystem} {isNew : Bool} (hdir : c.fragments? = some dir)
    (hnew : (member d (.option w)).text ∉ c.commands.lines)
    (hholds : dir.Holds fs (member d (.option v)))
    (haccept : c.accept (member d (.option w)) fs = (.ok isNew, c', fs')) :
    dir.Holds fs' (member d (.option w)) ∧
      (dir.Holds fs' (member d (.option v)) ↔
        (member d (.option v)).fragmentName ≠ (member d (.option w)).fragmentName) := by
  obtain ⟨-, ⟨-, hold, -, -⟩ | ⟨-, ⟨p, _, hwrite, -⟩ | ⟨failure, -, e⟩⟩⟩ :=
    Collector.accept_incremental hdir haccept
  · exact absurd hold hnew
  · have hwritten := FragmentDirectory.holds_of_write hwrite
    refine ⟨hwritten, fun hkept hname => hne (member_option_text_inj (d := d) ?_),
      hholds.of_write hwrite⟩
    -- one file has one content
    rw [FragmentDirectory.Holds, FragmentDirectory.fragmentPath, hname] at hkept
    exact utf8Bytes_injective (Option.some.inj (hkept.symm.trans hwritten))
  · cases e

/-- What holds of any two different options of one member. -/
theorem sharesFragments_option (d : Declaration) {v w : String} (hne : v ≠ w) :
    SharesFragments d v w := by
  have hlists : v.toList ≠ w.toList := fun h => hne (String.toList_inj.1 h)
  have happart (h : partClearly v.toList w.toList = true) :
      (member d (.option v)).fragmentName ≠ (member d (.option w)).fragmentName :=
    mt (fragmentName_option_eq_iff d v w).1 (nameCodes_ne_of_partClearly h)
  exact
    { name_eq_iff := fragmentName_option_eq_iff d v w
      apart_of_partClearly := happart
      apart_of_oneForm := fun h => happart (h.partClearly hlists)
      apart_of_kept := fun hv hw => happart ((haveOneForm_of_kept hv hw).partClearly hlists)
      holds_iff := holds_option_iff hne }

/-- The digits written for a blank are characters of another value. Both values fit on a line, and
accepting the second overwrites the fragment of the first. -/
theorem sharesFragments_of_blank_and_its_digits :
    let d : Declaration := { owner := "a", name := "m" }
    let dir : FragmentDirectory := ⟨⟨"f"⟩⟩
    let a := member d (.option "a b")
    let b := member d (.option "a20b")
    a.directive.fitsOnLine = true ∧ b.directive.fitsOnLine = true ∧ a.text ≠ b.text ∧
      a.fragmentName = b.fragmentName ∧
      ∃ c c' fs fs', (Collector.incremental dir).accept a (.inDirectory []) = (.ok true, c, fs) ∧
        c.accept b fs = (.ok true, c', fs') ∧ dir.Holds fs a ∧ ¬ dir.Holds fs' a := by
  intro d dir a b
  have hshares : SharesFragments d "a b" "a20b" := sharesFragments_option d (by decide)
  have hname : a.fragmentName = b.fragmentName := hshares.name_eq_iff.2 (by decide +kernel)
  let c := (Collector.incremental dir).record [a]
  let made := (FileSystem.inDirectory []).put ["f"] .directory
  let fs := made.put ["f", a.fragmentName] (.file (utf8Bytes a.text))
  let fs' := made.put ["f", a.fragmentName] (.file (utf8Bytes b.text))
  have hfirst : (Collector.incremental dir).accept a (.inDirectory []) = (.ok true, c, fs) := by
    decide +kernel
  have hsecond : c.accept b fs = (.ok true, c.record [b], fs') := by decide +kernel
  have hholds : dir.Holds fs a := by decide +kernel
  have hnew : b.text ∉ c.commands.lines := by decide +kernel
  refine ⟨by decide, by decide, by decide +kernel, hname, c, c.record [b], fs, fs', hfirst,
    hsecond, hholds, fun hkept => ?_⟩
  exact (hshares.holds_iff rfl hnew hholds hsecond).2.1 hkept hname

end Line

end CompilerHints
