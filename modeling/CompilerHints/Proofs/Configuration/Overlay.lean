import CompilerHints.Configuration.Options
import CompilerHints.Proofs.Blanks
import CompilerHints.Proofs.Path
import Mathlib.Data.List.Induction
import Mathlib.Order.WellFounded

/-!
# Options over settings

Options are laid over settings one after the other, so for each setting the last option of its key
counts. A name that stands for no charset ends that at once; the rules for settings are looked at
when all options are in place.

* `Configuration.overlay`: the settings with what the last option of each key says.
* `Configuration.setOptions_eq_ok`, `Configuration.exists_setOptions_eq_error`: what becomes of
  options.
* `Configuration.Rule`, `Configuration.validate_eq_error_iff`: the rules, and which of them is
  reported.
* `Configuration.Rewritten`: lists of options that come to the same.
* `parseOption_eq_ok_iff`: the options that texts stand for.
* `Configuration.laysOver_applyOptions`: all of this.
-/

namespace CompilerHints

open Text

/-! ### Options in texts -/

/-- A text stands for an option: the key is in front of the first equals sign and the value behind
it, both without the blanks at their ends. -/
def ConfigurationOption.IsWritten (raw : String) (o : ConfigurationOption) : Prop :=
  ∃ key value, raw = key ++ "=" ++ value ∧ '=' ∉ key.toList ∧ o = ⟨trim key, trim value⟩

theorem takeWhile_equals {key : List Char} (h : '=' ∉ key) (rest : List Char) :
    (key ++ rest).takeWhile (· ≠ '=') = key ++ rest.takeWhile (· ≠ '=') :=
  List.takeWhile_append_of_pos fun _ hc => decide_eq_true (ne_of_mem_of_not_mem hc h)

theorem dropWhile_equals {key : List Char} (h : '=' ∉ key) (rest : List Char) :
    (key ++ rest).dropWhile (· ≠ '=') = rest.dropWhile (· ≠ '=') :=
  List.dropWhile_append_of_pos fun _ hc => decide_eq_true (ne_of_mem_of_not_mem hc h)

theorem toList_append_equals (key value : String) :
    (key ++ "=" ++ value).toList = key.toList ++ '=' :: value.toList := by
  rw [String.toList_append, String.toList_append, List.append_assoc]
  rfl

theorem parseOption_of_isWritten {raw : String} {o : ConfigurationOption} (h : o.IsWritten raw) :
    parseOption raw = if o.key = "" then .error (.malformedOption raw) else .ok o := by
  obtain ⟨key, value, rfl, hkey, rfl⟩ := h
  have hvalue : ('=' :: value.toList).takeWhile (· ≠ '=') = [] ∧
      ('=' :: value.toList).dropWhile (· ≠ '=') = '=' :: value.toList := ⟨rfl, rfl⟩
  simp only [parseOption, toList_append_equals, takeWhile_equals hkey, dropWhile_equals hkey,
    hvalue, List.append_nil, String.ofList_toList]

theorem parseOption_of_not_mem {raw : String} (h : '=' ∉ raw.toList) :
    parseOption raw = .error (.malformedOption raw) := by
  have hdrop := dropWhile_equals h []
  rw [List.append_nil, List.dropWhile_nil] at hdrop
  simp only [parseOption, hdrop]

/-- A text with an equals sign in it stands for one option. -/
theorem exists_isWritten {raw : String} (h : '=' ∈ raw.toList) :
    ∃ o : ConfigurationOption, o.IsWritten raw := by
  obtain ⟨key, value, hraw, hkey⟩ := List.eq_append_cons_of_mem h
  refine ⟨_, String.ofList key, String.ofList value, ?_, by rwa [String.toList_ofList], rfl⟩
  rw [← String.toList_inj, toList_append_equals, String.toList_ofList, String.toList_ofList, hraw]

/-- A text is read as the option that it stands for, if the key is not blank. -/
theorem parseOption_eq_ok_iff {raw : String} {o : ConfigurationOption} :
    parseOption raw = .ok o ↔ o.IsWritten raw ∧ o.key ≠ "" := by
  constructor
  · intro h
    by_cases hmem : '=' ∈ raw.toList
    · obtain ⟨o', hwritten⟩ := exists_isWritten hmem
      rw [parseOption_of_isWritten hwritten] at h
      split at h
      · cases h
      · next hkey =>
        cases h
        exact ⟨hwritten, hkey⟩
    · rw [parseOption_of_not_mem hmem] at h
      cases h
  · rintro ⟨hwritten, hkey⟩
    rw [parseOption_of_isWritten hwritten, if_neg hkey]

/-- Any other text is reported as it is. -/
theorem parseOption_eq_error_iff {raw : String} {error : ConfigurationError} :
    parseOption raw = .error error ↔
      error = .malformedOption raw ∧ ∀ o : ConfigurationOption, o.IsWritten raw → o.key = "" := by
  constructor
  · intro h
    refine ⟨?_, fun o hwritten => ?_⟩
    · by_cases hmem : '=' ∈ raw.toList
      · obtain ⟨o, hwritten⟩ := exists_isWritten hmem
        rw [parseOption_of_isWritten hwritten] at h
        split at h <;> cases h
        rfl
      · rw [parseOption_of_not_mem hmem] at h
        cases h
        rfl
    · rw [parseOption_of_isWritten hwritten] at h
      split at h
      · next hkey => exact hkey
      · cases h
  · rintro ⟨rfl, hblank⟩
    by_cases hmem : '=' ∈ raw.toList
    · obtain ⟨o, hwritten⟩ := exists_isWritten hmem
      rw [parseOption_of_isWritten hwritten, if_pos (hblank o hwritten)]
    · exact parseOption_of_not_mem hmem

namespace Configuration

variable {c : Configuration} {options : List ConfigurationOption} {o : ConfigurationOption}

/-! ### Laying options over settings -/

/-- The values that options give under a key, in order. -/
def givenValues (key : String) (options : List ConfigurationOption) : List String :=
  options.filterMap fun o => if o.key = key then some o.value else none

/-- Settings in which each one that options give has the value of the last of them. -/
def overlay (c : Configuration) (options : List ConfigurationOption) : Configuration where
  outputPath := (givenValues outputPathKey options).getLast?.getD c.outputPath
  charset := ((givenValues charsetKey options).getLast?.bind Charset.ofName?).getD c.charset
  fragmentsPath? := (givenValues fragmentsKey options).getLast?.or c.fragmentsPath?

/-- Every value under the key of the charset names a charset. -/
def NamesCharsets (options : List ConfigurationOption) : Prop :=
  ∀ o ∈ options, o.key = charsetKey → (Charset.ofName? o.value).isSome = true

instance (options : List ConfigurationOption) : Decidable (NamesCharsets options) :=
  inferInstanceAs
    (Decidable (∀ o ∈ options, o.key = charsetKey → (Charset.ofName? o.value).isSome = true))

theorem givenValues_append (key : String) (a b : List ConfigurationOption) :
    givenValues key (a ++ b) = givenValues key a ++ givenValues key b :=
  List.filterMap_append

theorem givenValues_cons_of_eq {key : String} (h : o.key = key) :
    givenValues key (o :: options) = o.value :: givenValues key options := by
  rw [givenValues, List.filterMap_cons, if_pos h]
  rfl

theorem givenValues_cons_of_ne {key : String} (h : o.key ≠ key) :
    givenValues key (o :: options) = givenValues key options := by
  rw [givenValues, List.filterMap_cons, if_neg h]
  rfl

/-- What one more option says counts, and the other settings are what they were. -/
theorem givenValues_concat (key : String) :
    givenValues key (options ++ [o]) =
      if o.key = key then givenValues key options ++ [o.value] else givenValues key options := by
  rw [givenValues_append]
  split
  · next h => rw [givenValues_cons_of_eq h]; rfl
  · next h => rw [givenValues_cons_of_ne h]; exact List.append_nil _

theorem setOption_overlay (c : Configuration) (options : List ConfigurationOption)
    (h : o.key = charsetKey → (Charset.ofName? o.value).isSome = true) :
    (c.overlay options).setOption o = .ok (c.overlay (options ++ [o])) := by
  have hcharset : charsetKey ≠ outputPathKey := by decide
  have hfragments : fragmentsKey ≠ outputPathKey ∧ fragmentsKey ≠ charsetKey := by decide
  rw [setOption]
  split
  · next hkey => simp [overlay, givenValues_concat, hkey, hcharset.symm, hfragments.1.symm]
  · next hpath =>
    split
    · next hkey =>
      obtain ⟨charset, hname⟩ := Option.isSome_iff_exists.1 (h hkey)
      simp [overlay, givenValues_concat, hkey, hname, hcharset, hfragments.2.symm]
    · next hother =>
      split
      · next hkey => simp [overlay, givenValues_concat, hkey, hfragments]
      · next hunknown => simp [overlay, givenValues_concat, hpath, hother, hunknown]

theorem setOptions_append (c : Configuration) (a b : List ConfigurationOption) :
    c.setOptions (a ++ b) =
      match c.setOptions a with
      | .ok c => c.setOptions b
      | .error error => .error error := by
  induction a generalizing c with
  | nil => rfl
  | cons o a ih =>
    rw [List.cons_append, setOptions, setOptions]
    cases c.setOption o with
    | ok c => exact ih c
    | error error => rfl

/-- Options are laid over settings, if all charsets are known. -/
theorem setOptions_eq_ok (c : Configuration) (h : NamesCharsets options) :
    c.setOptions options = .ok (c.overlay options) := by
  induction options using List.reverseRecOn with
  | nil => rfl
  | append_singleton options o ih =>
    rw [NamesCharsets, List.forall_mem_append, List.forall_mem_singleton] at h
    rw [setOptions_append, ih h.1]
    dsimp only
    rw [setOptions, setOption_overlay c options h.2]
    rfl

/-- Otherwise the first name that stands for no charset is reported. -/
theorem exists_setOptions_eq_error (c : Configuration) (h : ¬ NamesCharsets options) :
    ∃ front name back, options = front ++ ⟨charsetKey, name⟩ :: back ∧ NamesCharsets front ∧
      Charset.ofName? name = none ∧ c.setOptions options = .error (.unsupportedCharset name) := by
  induction options using List.reverseRecOn with
  | nil => exact absurd (List.forall_mem_nil _) h
  | append_singleton options o ih =>
    by_cases hnames : NamesCharsets options
    · rw [NamesCharsets, List.forall_mem_append, not_and, List.forall_mem_singleton] at h
      have hlast := h hnames
      rw [Classical.not_imp, Bool.not_eq_true, Option.isSome_eq_false_iff,
        Option.isNone_iff_eq_none] at hlast
      obtain ⟨hkey, hname⟩ := hlast
      obtain ⟨key, name⟩ := o
      dsimp only at hkey hname
      subst hkey
      refine ⟨options, name, [], rfl, hnames, hname, ?_⟩
      have hcharset : charsetKey ≠ outputPathKey := by decide
      rw [setOptions_append, setOptions_eq_ok c hnames]
      simp only [setOptions, setOption, if_neg hcharset, if_pos, hname]
    · obtain ⟨front, name, back, rfl, hfront, hname, herror⟩ := ih hnames
      refine ⟨front, name, back ++ [o], by simp, hfront, hname, ?_⟩
      rw [setOptions_append, herror]

/-! ### The rules -/

/-- What settings have to keep. -/
inductive Rule where
  /-- There is a path for the artifact. -/
  | outputPathGiven
  /-- It does not begin at the root. -/
  | outputPathRelative
  /-- It does not lead upwards. -/
  | outputPathInside
  /-- There is a path for fragments, where they are to be written. -/
  | fragmentsPathGiven
deriving DecidableEq, Repr

/-- The place of a rule in the order in which they are looked at. -/
def Rule.rank : Rule → Nat
  | outputPathGiven => 0
  | outputPathRelative => 1
  | outputPathInside => 2
  | fragmentsPathGiven => 3

/-- Settings break a rule. Blanks at the ends of paths do not count. -/
def Breaks (c : Configuration) : Rule → Prop
  | .outputPathGiven => AreBlanks c.outputPath.toList
  | .outputPathRelative => ∃ rest, (trim c.outputPath).toList = '/' :: rest
  | .outputPathInside => ['.', '.'] ∈ splitSlashes (trim c.outputPath).toList
  | .fragmentsPathGiven => ∃ dir, c.fragmentsPath? = some dir ∧ AreBlanks dir.toList

/-- How it is reported that settings break a rule. -/
def Rule.error (c : Configuration) : Rule → ConfigurationError
  | outputPathGiven => .missingOutputPath
  | outputPathRelative => .absoluteOutputPath (trim c.outputPath)
  | outputPathInside => .escapingOutputPath (trim c.outputPath)
  | fragmentsPathGiven => .missingFragmentsPath

/-- Settings break a rule and none of those that are looked at before. -/
def BreaksFirst (c : Configuration) (rule : Rule) : Prop :=
  c.Breaks rule ∧ ∀ earlier : Rule, earlier.rank < rule.rank → ¬ c.Breaks earlier

/-- Settings that break a rule break one of them first. -/
theorem exists_breaksFirst (h : ∃ rule, c.Breaks rule) : ∃ rule, c.BreaksFirst rule := by
  obtain ⟨rule, hrule, hfirst⟩ :=
    (measure Rule.rank).wf.has_min {rule | c.Breaks rule} h
  exact ⟨rule, hrule, fun earlier hrank hbreaks => hfirst earlier hbreaks hrank⟩

open Classical in
/-- The rules are looked at one after the other. -/
theorem fault?_eq (c : Configuration) :
    c.fault? =
      if c.Breaks .outputPathGiven then some (Rule.outputPathGiven.error c)
      else if c.Breaks .outputPathRelative then some (Rule.outputPathRelative.error c)
      else if c.Breaks .outputPathInside then some (Rule.outputPathInside.error c)
      else if c.Breaks .fragmentsPathGiven then some (Rule.fragmentsPathGiven.error c)
      else none := by
  have hgiven : trim c.outputPath = "" ↔ c.Breaks .outputPathGiven := trim_eq_empty_iff
  have hrelative : (Path.mk (trim c.outputPath)).isAbsolute = true ↔
      c.Breaks .outputPathRelative := by
    rw [Path.isAbsolute, beq_iff_eq, List.head?_eq_some_iff]
    rfl
  have hinside : (Path.mk (trim c.outputPath)).components.contains .parent = true ↔
      c.Breaks .outputPathInside := by
    rw [List.contains_iff_mem, Path.mem_components_iff (by decide), Path.parent_mem_steps_iff]
    rfl
  have hfragments : (c.fragmentsPath?.any fun dir => trim dir = "") = true ↔
      c.Breaks .fragmentsPathGiven := by
    simp only [Option.any_eq_true, decide_eq_true_eq, trim_eq_empty_iff]
    rfl
  simp only [fault?, hgiven, hrelative, hinside, hfragments]
  rfl

theorem fault?_of_breaksFirst {rule : Rule} (h : c.BreaksFirst rule) :
    c.fault? = some (rule.error c) := by
  obtain ⟨hbreaks, hearlier⟩ := h
  rw [fault?_eq]
  cases rule with
  | outputPathGiven => rw [if_pos hbreaks]
  | outputPathRelative => rw [if_neg (hearlier .outputPathGiven (by decide)), if_pos hbreaks]
  | outputPathInside =>
    rw [if_neg (hearlier .outputPathGiven (by decide)),
      if_neg (hearlier .outputPathRelative (by decide)), if_pos hbreaks]
  | fragmentsPathGiven =>
    rw [if_neg (hearlier .outputPathGiven (by decide)),
      if_neg (hearlier .outputPathRelative (by decide)),
      if_neg (hearlier .outputPathInside (by decide)), if_pos hbreaks]

/-- Settings that keep all rules are taken as they are. -/
theorem validate_eq_ok_iff {c' : Configuration} :
    c.validate = .ok c' ↔ c' = c ∧ ∀ rule, ¬ c.Breaks rule := by
  rw [← not_exists]
  by_cases h : ∃ rule, c.Breaks rule
  · obtain ⟨rule, hrule⟩ := exists_breaksFirst h
    rw [validate, fault?_of_breaksFirst hrule]
    exact iff_of_false (by simp) fun hnone => hnone.2 h
  · have hnone : c.fault? = none := by
      rw [not_exists] at h
      rw [fault?_eq, if_neg (h _), if_neg (h _), if_neg (h _), if_neg (h _)]
    rw [validate, hnone, Except.ok.injEq, and_iff_left h, eq_comm]

/-- Of the rules that settings break, the first one is reported. -/
theorem validate_eq_error_iff {error : ConfigurationError} :
    c.validate = .error error ↔ ∃ rule, c.BreaksFirst rule ∧ error = rule.error c := by
  constructor
  · intro h
    have hbroken : ∃ rule, c.Breaks rule := by
      by_contra hnone
      rw [validate_eq_ok_iff.2 ⟨rfl, not_exists.1 hnone⟩] at h
      cases h
    obtain ⟨rule, hrule⟩ := exists_breaksFirst hbroken
    rw [validate, fault?_of_breaksFirst hrule] at h
    exact ⟨rule, hrule, (Except.error.inj h).symm⟩
  · rintro ⟨rule, hrule, rfl⟩
    rw [validate, fault?_of_breaksFirst hrule]

/-! ### Lists of options that come to the same -/

/-- The keys that settings are given under. -/
def knownKeys : List String :=
  [outputPathKey, charsetKey, fragmentsKey]

/-- A list of options is written in another way: options of different keys change places, and
options are left out that nobody knows or that a later one overrides. -/
inductive Rewritten : List ConfigurationOption → List ConfigurationOption → Prop
  | refl (options : List ConfigurationOption) : Rewritten options options
  | trans {a b c : List ConfigurationOption} (hab : Rewritten a b) (hbc : Rewritten b c) :
      Rewritten a c
  | swap {front back : List ConfigurationOption} {o p : ConfigurationOption} (h : o.key ≠ p.key) :
      Rewritten (front ++ o :: p :: back) (front ++ p :: o :: back)
  | dropUnknown {front back : List ConfigurationOption} {o : ConfigurationOption}
      (h : o.key ∉ knownKeys) : Rewritten (front ++ o :: back) (front ++ back)
  | dropOverridden {front back : List ConfigurationOption} {o : ConfigurationOption}
      (h : ∃ later ∈ back, later.key = o.key) : Rewritten (front ++ o :: back) (front ++ back)

namespace Rewritten

variable {a b : List ConfigurationOption}

/-- No option is added. -/
theorem mem_of_mem (h : Rewritten a b) (ho : o ∈ b) : o ∈ a := by
  induction h with
  | refl => exact ho
  | trans _ _ ihab ihbc => exact ihab (ihbc ho)
  | swap _ => simpa [or_left_comm] using ho
  | dropUnknown _ =>
    simp only [List.mem_append, List.mem_cons] at ho ⊢
    exact ho.imp_right .inr
  | dropOverridden _ =>
    simp only [List.mem_append, List.mem_cons] at ho ⊢
    exact ho.imp_right .inr

theorem namesCharsets (h : Rewritten a b) (ha : NamesCharsets a) : NamesCharsets b :=
  fun _ ho => ha _ (h.mem_of_mem ho)

/-- The last option of each known key says the same. -/
theorem getLast?_givenValues (h : Rewritten a b) {key : String} (hkey : key ∈ knownKeys) :
    (givenValues key a).getLast? = (givenValues key b).getLast? := by
  induction h with
  | refl => rfl
  | trans _ _ ihab ihbc => exact ihab.trans ihbc
  | @swap front back o p hne =>
    -- one of the two is of another key, so nobody sees that they change places
    have hother : o.key ≠ key ∨ p.key ≠ key := by
      rw [← not_and_or]
      rintro ⟨rfl, hp⟩
      exact hne hp.symm
    rw [givenValues_append, givenValues_append]
    rcases hother with ho | hp
    · rw [givenValues_cons_of_ne ho]
      by_cases hp : p.key = key
      · rw [givenValues_cons_of_eq hp, givenValues_cons_of_eq hp, givenValues_cons_of_ne ho]
      · rw [givenValues_cons_of_ne hp, givenValues_cons_of_ne hp, givenValues_cons_of_ne ho]
    · rw [givenValues_cons_of_ne hp]
      by_cases ho : o.key = key
      · rw [givenValues_cons_of_eq ho, givenValues_cons_of_eq ho, givenValues_cons_of_ne hp]
      · rw [givenValues_cons_of_ne ho, givenValues_cons_of_ne ho, givenValues_cons_of_ne hp]
  | dropUnknown hunknown =>
    rw [givenValues_append, givenValues_append,
      givenValues_cons_of_ne (ne_of_mem_of_not_mem hkey hunknown).symm]
  | @dropOverridden front back o hlater =>
    rw [givenValues_append, givenValues_append]
    by_cases ho : o.key = key
    · -- the later option of the key is behind it
      obtain ⟨later, hmem, hlater⟩ := hlater
      have hne : givenValues key back ≠ [] :=
        List.ne_nil_of_mem (List.mem_filterMap.2 ⟨later, hmem, if_pos (hlater.trans ho)⟩)
      obtain ⟨value, values, e⟩ := List.exists_cons_of_ne_nil hne
      rw [givenValues_cons_of_eq ho, List.getLast?_append, List.getLast?_append, e,
        List.getLast?_cons_cons]
    · rw [givenValues_cons_of_ne ho]

/-- Settings do not show which way options were written. -/
theorem overlay_eq (h : Rewritten a b) (c : Configuration) : c.overlay a = c.overlay b := by
  have hpath : outputPathKey ∈ knownKeys := by decide
  have hcharset : charsetKey ∈ knownKeys := by decide
  have hfragments : fragmentsKey ∈ knownKeys := by decide
  rw [overlay, overlay, h.getLast?_givenValues hpath, h.getLast?_givenValues hcharset,
    h.getLast?_givenValues hfragments]

end Rewritten

/-! ### What becomes of options -/

theorem applyOptions_eq_validate (c : Configuration) (h : NamesCharsets options) :
    c.applyOptions options = (c.overlay options).validate := by
  rw [applyOptions, setOptions_eq_ok c h]

/-- How options are read and laid over settings. -/
structure LaysOver (c : Configuration) : Prop where
  /-- The first name that stands for no charset is reported, whatever else the options say. -/
  unsupported : ∀ options, ¬ NamesCharsets options →
    ∃ front name back, options = front ++ ⟨charsetKey, name⟩ :: back ∧ NamesCharsets front ∧
      Charset.ofName? name = none ∧ c.applyOptions options = .error (.unsupportedCharset name)
  /-- Otherwise each setting is what the last option of its key says, or what it was. -/
  overlaid : ∀ options, NamesCharsets options → c.setOptions options = .ok (c.overlay options)
  /-- These settings are the result if they break no rule. -/
  accepted : ∀ options, NamesCharsets options → ∀ c' : Configuration,
    c.applyOptions options = .ok c' ↔
      c' = c.overlay options ∧ ∀ rule, ¬ (c.overlay options).Breaks rule
  /-- If they break rules, the first of these is reported. -/
  refused : ∀ options, NamesCharsets options → ∀ error,
    c.applyOptions options = .error error ↔
      ∃ rule, (c.overlay options).BreaksFirst rule ∧ error = rule.error (c.overlay options)
  /-- It does not matter in which way the options are written. -/
  rewritten : ∀ options options', Rewritten options options' → NamesCharsets options →
    c.applyOptions options = c.applyOptions options'
  /-- A text is an option if it has an equals sign with more than blanks in front of it, and is
  reported if not. -/
  texts : ∀ raw, (∀ o, parseOption raw = .ok o ↔ o.IsWritten raw ∧ o.key ≠ "") ∧
    ∀ error, parseOption raw = .error error ↔
      error = .malformedOption raw ∧ ∀ o : ConfigurationOption, o.IsWritten raw → o.key = ""

/-- Options are laid over any settings like this. -/
theorem laysOver_applyOptions (c : Configuration) : c.LaysOver where
  unsupported options h := by
    obtain ⟨front, name, back, hoptions, hfront, hname, herror⟩ := exists_setOptions_eq_error c h
    exact ⟨front, name, back, hoptions, hfront, hname, by rw [applyOptions, herror]⟩
  overlaid _ h := setOptions_eq_ok c h
  accepted options h c' := by rw [applyOptions_eq_validate c h, validate_eq_ok_iff]
  refused options h error := by rw [applyOptions_eq_validate c h, validate_eq_error_iff]
  rewritten options options' hrewritten h := by
    rw [applyOptions_eq_validate c h, applyOptions_eq_validate c (hrewritten.namesCharsets h),
      hrewritten.overlay_eq]
  texts _ := ⟨fun _ => parseOption_eq_ok_iff, fun _ => parseOption_eq_error_iff⟩

end Configuration

end CompilerHints
