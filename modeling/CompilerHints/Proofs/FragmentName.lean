import CompilerHints.Proofs.LineText

/-!
# Characters of fragment names

Every character of a fragment name is one that stands for itself there. So a fragment name is one
step of a path, to an entry of a directory.

* `Text.exists_digit_of_mem_hexDigits`: the digits that are written for other characters.
* `Line.keptInName_of_mem_fragmentName`: all characters of a fragment name.
* `Line.slash_not_mem_fragmentName`, `Line.hyphen_mem_fragmentName`: as path steps see it.
* `NamesTellTexts`: no two texts are kept under one name.
-/

namespace CompilerHints

open Text

namespace Text

theorem exists_digit_of_mem_hexDigits {n : Nat} {c : Char} (h : c ∈ hexDigits n) :
    ∃ d, d < 16 ∧ c = d.digitChar := by
  unfold hexDigits at h
  induction n using Nat.strongRecOn with
  | ind n ih =>
    rw [Nat.toDigits_eq_if (by decide)] at h
    split at h
    · next hn => exact ⟨n, hn, List.mem_singleton.1 h⟩
    · rcases List.mem_append.1 h with h | h
      · exact ih (n / 16) (by omega) h
      · exact ⟨n % 16, Nat.mod_lt n (by decide), List.mem_singleton.1 h⟩

end Text

theorem keptInName_digitChar {d : Nat} (h : d < 16) : keptInName d.digitChar = true := by
  have hall : ∀ d : Fin 16, keptInName d.val.digitChar = true := by decide +kernel
  exact hall ⟨d, h⟩

/-- What a character contributes stands for itself. -/
theorem keptInName_of_mem_nameCode {c x : Char} (h : x ∈ nameCode c) : keptInName x = true := by
  unfold nameCode at h
  split at h
  · next hkept => rwa [List.mem_singleton.1 h]
  · obtain ⟨unit, -, hx⟩ := List.mem_flatMap.1 h
    obtain ⟨d, hd, rfl⟩ := exists_digit_of_mem_hexDigits hx
    exact keptInName_digitChar hd

namespace Line

theorem keptInName_of_mem_fragmentName {line : Line} {x : Char}
    (h : x ∈ line.fragmentName.toList) : keptInName x = true := by
  rw [fragmentName, CompilerHints.fragmentName, String.toList_ofList] at h
  obtain ⟨c, -, hx⟩ := List.mem_flatMap.1 h
  exact keptInName_of_mem_nameCode hx

theorem slash_not_mem_fragmentName (line : Line) : '/' ∉ line.fragmentName.toList := fun h =>
  absurd (keptInName_of_mem_fragmentName h) (by decide +kernel)

theorem hyphen_mem_fragmentName (line : Line) : '-' ∈ line.fragmentName.toList := by
  rw [toList_fragmentName]
  exact List.mem_append_right _ List.mem_cons_self

end Line

/-- Whether different texts among lines are kept under different names. -/
def NamesTellTexts (lines : List Line) : Prop :=
  ∀ a ∈ lines, ∀ b ∈ lines, a.fragmentName = b.fragmentName → a.text = b.text

instance (lines : List Line) : Decidable (NamesTellTexts lines) :=
  inferInstanceAs
    (Decidable (∀ a ∈ lines, ∀ b ∈ lines, a.fragmentName = b.fragmentName → a.text = b.text))

end CompilerHints
