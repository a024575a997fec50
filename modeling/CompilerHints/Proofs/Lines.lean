import CompilerHints.Proofs.Pieces
import CompilerHints.Proofs.PrefixCode

/-!
# Lines that stand in a text

Which lines a text has is said here without cutting it: a line begins where the text or another line
begins, and goes on to a line feed, to a carriage return and a line feed, or to the end of the text.

* `Text.StandsIn`: a line stands in a text.
* `Text.mem_cutLines_iff`, `Text.mem_lines_iff`: cutting a text gives the lines that stand in it.
* `Text.IsLine`, `Text.lines_joinLines`: lines that are read back as they were written.
-/

namespace CompilerHints

namespace Text

/-- A text begins with a line. A carriage return at the end of the text belongs to the line. -/
inductive Leads (line : List Char) : List Char → Prop
  /-- The line ends with a line feed alone. -/
  | lineFeed (rest : List Char) (hreturn : line.getLast? ≠ some '\r') :
      Leads line (line ++ '\n' :: rest)
  /-- The line ends with a carriage return and a line feed. -/
  | carriageReturn (rest : List Char) : Leads line (line ++ '\r' :: '\n' :: rest)
  /-- The line ends with the text. -/
  | text (hne : line ≠ []) : Leads line line

/-- A line stands in a text: the text begins with it, or has it directly behind a line feed. -/
def StandsIn (line text : List Char) : Prop :=
  '\n' ∉ line ∧ ∃ before after, text = before ++ after ∧
    (before = [] ∨ before.getLast? = some '\n') ∧ Leads line after

/-! ### Cutting a text -/

/-- A line without the carriage return at its end. -/
def dropReturn (line : List Char) : List Char :=
  if line.getLast? = some '\r' then line.dropLast else line

theorem dropReturn_of_ne {line : List Char} (h : line.getLast? ≠ some '\r') :
    dropReturn line = line :=
  if_neg h

theorem dropReturn_concat (line : List Char) : dropReturn (line ++ ['\r']) = line := by
  rw [dropReturn, if_pos List.getLast?_concat, List.dropLast_concat]

theorem dropReturn_cons {c : Char} {line : List Char} (h : line ≠ []) :
    dropReturn (c :: line) = c :: dropReturn line := by
  obtain ⟨d, rest, rfl⟩ := List.exists_cons_of_ne_nil h
  rw [dropReturn, dropReturn, List.getLast?_cons_cons]
  split <;> rfl

/-- The first line ends at the first line feed. -/
theorem cutLines_append {line : List Char} (h : '\n' ∉ line) (rest : List Char) :
    cutLines (line ++ '\n' :: rest) = dropReturn line :: cutLines rest := by
  induction line with
  | nil => rw [List.nil_append, cutLines, dropReturn_of_ne (by simp)]
  | cons c line ih =>
    rw [List.mem_cons, not_or] at h
    by_cases hline : line = []
    · subst hline
      by_cases hc : c = '\r'
      · subst hc
        rw [List.singleton_append, cutLines]
        rfl
      · rw [List.singleton_append, cutLines, cutLines, dropReturn_of_ne]
        · simpa using hc
        · exact Ne.symm h.1
        · exact fun _ e => absurd e hc
    · rw [dropReturn_cons hline, List.cons_append, cutLines, ih h.2]
      · exact Ne.symm h.1
      · intro rest' _ e
        obtain ⟨d, line', rfl⟩ := List.exists_cons_of_ne_nil hline
        exact h.2 (List.mem_cons.2 (.inl (List.cons.inj e).1.symm))

/-- Of a text that goes on behind a line feed, the first line stands in it, and the lines of what
follows do. -/
theorem standsIn_append_iff {line first : List Char} (h : '\n' ∉ first) (rest : List Char) :
    StandsIn line (first ++ '\n' :: rest) ↔ line = dropReturn first ∨ StandsIn line rest := by
  constructor
  · rintro ⟨hline, before, after, htext, hbefore | hbefore, hleads⟩
    · -- the text begins with the line, so the line feed behind it is the first one
      subst hbefore
      rw [List.nil_append] at htext
      subst htext
      generalize htext : first ++ '\n' :: rest = text at hleads
      cases hleads with
      | lineFeed rest' hreturn =>
        obtain ⟨rfl, -⟩ := append_cons_inj_of_separator h hline htext
        exact .inl (dropReturn_of_ne hreturn).symm
      | carriageReturn rest' =>
        have hline' : '\n' ∉ line ++ ['\r'] := by simpa using hline
        obtain ⟨rfl, -⟩ := append_cons_inj_of_separator h hline'
          (htext.trans (List.append_cons line '\r' ('\n' :: rest')))
        exact .inl (dropReturn_concat line).symm
      | text hne =>
        rw [← htext] at hline
        exact absurd (List.mem_append_right _ List.mem_cons_self) hline
    · -- the line begins behind some line feed, which is the first one or comes later
      obtain ⟨above, rfl⟩ := List.getLast?_eq_some_iff.1 hbefore
      rw [List.append_assoc, List.singleton_append] at htext
      refine .inr ⟨hline, ?_⟩
      by_cases habove : '\n' ∈ above
      · obtain ⟨first', above', rfl, hfirst'⟩ := List.eq_append_cons_of_mem habove
        rw [List.append_assoc, List.cons_append] at htext
        obtain ⟨-, rfl⟩ := append_cons_inj_of_separator h hfirst' htext
        exact ⟨above' ++ ['\n'], after, by simp, .inr List.getLast?_concat, hleads⟩
      · obtain ⟨-, rfl⟩ := append_cons_inj_of_separator h habove htext
        exact ⟨[], rest, rfl, .inl rfl, hleads⟩
  · rintro (rfl | ⟨hline, before, after, rfl, hbefore, hleads⟩)
    · by_cases hreturn : first.getLast? = some '\r'
      · obtain ⟨line, rfl⟩ := List.getLast?_eq_some_iff.1 hreturn
        rw [dropReturn_concat, List.append_assoc]
        exact ⟨fun hmem => h (List.mem_append_left _ hmem), [], _, rfl, .inl rfl,
          .carriageReturn rest⟩
      · rw [dropReturn_of_ne hreturn]
        exact ⟨h, [], _, rfl, .inl rfl, .lineFeed rest hreturn⟩
    · refine ⟨hline, first ++ '\n' :: before, after, by simp, .inr ?_, hleads⟩
      rcases hbefore with rfl | hbefore
      · simp
      · rw [List.getLast?_append, List.getLast?_cons, hbefore]
        rfl

/-- Of a text without line feeds only the whole can stand in it. -/
theorem standsIn_iff_of_not_mem {line text : List Char} (h : '\n' ∉ text) :
    StandsIn line text ↔ text ≠ [] ∧ line = text := by
  constructor
  · rintro ⟨-, before, after, rfl, hbefore, hleads⟩
    rw [List.mem_append, not_or] at h
    obtain rfl : before = [] := hbefore.resolve_right fun e => h.1 (List.mem_of_getLast? e)
    cases hleads with
    | lineFeed rest _ => exact absurd (by simp) h.2
    | carriageReturn rest => exact absurd (by simp) h.2
    | text hne => exact ⟨hne, rfl⟩
  · rintro ⟨hne, rfl⟩
    exact ⟨h, [], line, rfl, .inl rfl, .text hne⟩

/-- Cutting a text gives the lines that stand in it. -/
theorem mem_cutLines_iff {line text : List Char} : line ∈ cutLines text ↔ StandsIn line text := by
  -- a text without line feeds is a single line; else the first line is cut off
  induction hn : text.length using Nat.strongRecOn generalizing text with
  | _ n ih =>
    by_cases h : '\n' ∈ text
    · obtain ⟨first, rest, rfl, hfirst⟩ := List.eq_append_cons_of_mem h
      have hrest : rest.length < n := by
        rw [← hn, List.length_append, List.length_cons]
        omega
      rw [cutLines_append hfirst, standsIn_append_iff hfirst, List.mem_cons, ih _ hrest rfl]
    · rw [standsIn_iff_of_not_mem h]
      by_cases hne : text = []
      · subst hne
        exact iff_of_false List.not_mem_nil fun e => e.1 rfl
      · rw [cutLines_of_not_mem hne h, List.mem_singleton, and_iff_right hne]

theorem mem_lines_iff {line text : String} :
    line ∈ lines text ↔ StandsIn line.toList text.toList := by
  rw [← mem_cutLines_iff, lines, List.mem_map]
  constructor
  · rintro ⟨cs, hcs, rfl⟩
    rwa [String.toList_ofList]
  · exact fun h => ⟨line.toList, h, String.ofList_toList⟩

/-! ### Writing lines and reading them back -/

/-- A text that is one line wherever it is written on a line of its own. -/
structure IsLine (text : String) : Prop where
  nonempty : text ≠ ""
  lineFeed : '\n' ∉ text.toList
  carriageReturn : text.toList.getLast? ≠ some '\r'

instance (text : String) : Decidable (IsLine text) :=
  decidable_of_iff
    (text ≠ "" ∧ '\n' ∉ text.toList ∧ text.toList.getLast? ≠ some '\r')
    ⟨fun ⟨hne, hfeed, hreturn⟩ => ⟨hne, hfeed, hreturn⟩,
      fun h => ⟨h.nonempty, h.lineFeed, h.carriageReturn⟩⟩

/-- Lines are read back as they were written. -/
theorem lines_joinLines {ls : List String} (h : ∀ line ∈ ls, IsLine line) :
    lines (joinLines ls) = ls := by
  induction ls with
  | nil => rfl
  | cons line rest ih =>
    rw [List.forall_mem_cons] at h
    rw [lines, toList_joinLines_cons, cutLines_append h.1.lineFeed,
      dropReturn_of_ne h.1.carriageReturn, List.map_cons, String.ofList_toList, ← lines, ih h.2]

end Text

end CompilerHints
