import Mathlib.Data.List.Basic

/-!
# Prefix codes

A code can be cut off the front of any text when no code word begins another one. Concatenated code
words are then uniquely decodable, also where a word of another kind follows them.

* `PrefixFreeOn`: no code word begins another one, among the values of a class.
* `PrefixFreeOn.flatMap_append_inj`: concatenated code words and what follows them are determined.
* `append_cons_inj_of_separator`: what stands before the first separator is determined.
-/

namespace CompilerHints

variable {α β : Type}

/-- Among the values of a class, code words can be cut off the front of any sequence. -/
def PrefixFreeOn (good : α → Prop) (code : α → List β) : Prop :=
  ∀ a b x y, good a → good b → code a ++ x = code b ++ y → a = b

namespace PrefixFreeOn

variable {good : α → Prop} {code : α → List β}

theorem append_inj (h : PrefixFreeOn good code) {a b : α} {x y : List β} (ha : good a)
    (hb : good b) (e : code a ++ x = code b ++ y) : a = b ∧ x = y := by
  obtain rfl := h a b x y ha hb e
  exact ⟨rfl, List.append_cancel_left e⟩

/-- Concatenated code words are determined together with what follows them, if that does not look
like one more code word. -/
theorem flatMap_append_inj (h : PrefixFreeOn good code) {as bs : List α} {x y : List β}
    (has : ∀ a ∈ as, good a) (hbs : ∀ b ∈ bs, good b) (hx : ∀ b z, good b → x ≠ code b ++ z)
    (hy : ∀ a z, good a → y ≠ code a ++ z) (e : as.flatMap code ++ x = bs.flatMap code ++ y) :
    as = bs ∧ x = y := by
  induction as generalizing bs with
  | nil =>
    cases bs with
    | nil => exact ⟨rfl, e⟩
    | cons b bs =>
      -- what follows the first sequence would begin with a code word of the second
      rw [List.flatMap_nil, List.nil_append, List.flatMap_cons, List.append_assoc] at e
      exact absurd e (hx b _ (hbs b List.mem_cons_self))
  | cons a as ih =>
    have ha := has a List.mem_cons_self
    cases bs with
    | nil =>
      rw [List.flatMap_nil, List.nil_append, List.flatMap_cons, List.append_assoc] at e
      exact absurd e.symm (hy a _ ha)
    | cons b bs =>
      simp only [List.flatMap_cons, List.append_assoc] at e
      obtain ⟨rfl, tails⟩ := h.append_inj ha (hbs b List.mem_cons_self) e
      obtain ⟨rfl, rfl⟩ := ih (fun a m => has a (List.mem_cons_of_mem _ m))
        (fun b m => hbs b (List.mem_cons_of_mem _ m)) tails
      exact ⟨rfl, rfl⟩

/-- Sequences of nonempty code words are determined by their concatenation. -/
theorem flatMap_inj (h : PrefixFreeOn good code) (hne : ∀ a, good a → code a ≠ [])
    {as bs : List α} (has : ∀ a ∈ as, good a) (hbs : ∀ b ∈ bs, good b)
    (e : as.flatMap code = bs.flatMap code) : as = bs := by
  have hnil (a : α) (z : List β) (ha : good a) : [] ≠ code a ++ z := fun hz =>
    hne a ha (List.append_eq_nil_iff.1 hz.symm).1
  exact (h.flatMap_append_inj has hbs hnil hnil (by simpa using e)).1

end PrefixFreeOn

/-- What stands before the first separator is determined, and what stands behind it. -/
theorem append_cons_inj_of_separator {s : β} {x₁ x₂ y₁ y₂ : List β} (h₁ : s ∉ x₁) (h₂ : s ∉ x₂)
    (e : x₁ ++ s :: y₁ = x₂ ++ s :: y₂) : x₁ = x₂ ∧ y₁ = y₂ := by
  induction x₁ generalizing x₂ with
  | nil =>
    cases x₂ with
    | nil => exact ⟨rfl, (List.cons.inj e).2⟩
    | cons c x₂ => exact absurd ((List.cons.inj e).1 ▸ List.mem_cons_self) h₂
  | cons c x₁ ih =>
    cases x₂ with
    | nil => exact absurd ((List.cons.inj e).1 ▸ List.mem_cons_self) h₁
    | cons d x₂ =>
      obtain ⟨rfl, tails⟩ := List.cons.inj e
      obtain ⟨rfl, rfl⟩ := ih (fun m => h₁ (List.mem_cons_of_mem _ m))
        (fun m => h₂ (List.mem_cons_of_mem _ m)) tails
      exact ⟨rfl, rfl⟩

end CompilerHints
