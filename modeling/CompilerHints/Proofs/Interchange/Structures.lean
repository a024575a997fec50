import CompilerHints.Interchange.Element
import CompilerHints.Proofs.Json.Printed

/-!
# Structures that were written

An object of members with different keys gives to every known field what was written for it. It is
taken in as a whole when its values are, one level further in.

* `Json.keyed`: the members of an object with given keys.
* `Json.fields?_ofMembers`, `Json.all?_array_map`: fields and lists that were written.
* `ReadingMode.admits_array`, `ReadingMode.admits_ofMembers`: what is taken in as a whole.
* `Json.isPrintable_array_map`, `Json.isPrintable_ofMembers`: what can be printed.
-/

namespace CompilerHints

namespace Json

/-! ### Fields -/

/-- The members of an object with given keys. -/
def keyed (members : List (String × Json)) : List (Option String × Json) :=
  members.map fun (key, value) => (some key, value)

theorem ofMembers_eq (members : List (String × Json)) :
    ofMembers members = object (keyed members) := rfl

theorem keyed_cons (key : String) (value : Json) (members : List (String × Json)) :
    keyed ((key, value) :: members) = (some key, value) :: keyed members := rfl

theorem mem_keyed_iff {members : List (String × Json)} {m : Option String × Json} :
    m ∈ keyed members ↔ ∃ key value, (key, value) ∈ members ∧ m = (some key, value) := by
  rw [keyed, List.mem_map, Prod.exists]
  simp only [eq_comm (a := m)]

/-- Members with different keys give to a key the value that stands with it. -/
theorem valuesOf_keyed {members : List (String × Json)} (h : (members.map Prod.fst).Nodup)
    (key : String) :
    valuesOf key (keyed members) = (members.lookup key).toList := by
  induction members with
  | nil => rfl
  | cons m members ih =>
    obtain ⟨k, value⟩ := m
    rw [List.map_cons, List.nodup_cons] at h
    rw [keyed_cons, valuesOf, List.filterMap_cons, List.lookup_cons]
    by_cases hk : k = key
    · subst hk
      have hnone : members.lookup k = none := by
        rw [List.lookup_eq_none_iff]
        intro m hm
        have hne : k ≠ m.1 := fun e => h.1 (List.mem_map.2 ⟨m, hm, e.symm⟩)
        simpa using hne
      have hrest := ih h.2
      rw [hnone, valuesOf] at hrest
      simp [hrest]
    · have hrest := ih h.2
      rw [valuesOf] at hrest
      have hk' : (key == k) = false := by simpa using Ne.symm hk
      simp [hk, hk', hrest]

theorem member?_keyed {members : List (String × Json)} (h : (members.map Prod.fst).Nodup)
    (key : String) :
    member? key (keyed members) = some (members.lookup key) := by
  rw [member?, valuesOf_keyed h]
  cases members.lookup key <;> rfl

/-- What an object of members with different keys gives to known fields. -/
theorem fields?_ofMembers {members : List (String × Json)} (h : (members.map Prod.fst).Nodup)
    (known : List String) :
    (ofMembers members).fields? known = some (known.map fun key => members.lookup key) := by
  rw [ofMembers_eq, fields?, memberFields?, if_pos]
  · induction known with
    | nil => rfl
    | cons key known ih =>
      rw [List.mapM_cons, ih, member?_keyed h]
      rfl
  · rw [List.all_eq_true]
    intro m hm
    obtain ⟨key, value, -, rfl⟩ := mem_keyed_iff.1 hm
    rfl

/-- A list is read from what was written for each of its members. -/
theorem all?_array_map {α : Type} {read? : Json → Option α} {write : α → Json} {xs : List α}
    (h : ∀ x ∈ xs, read? (write x) = some x) : all? read? (array (xs.map write)) = some xs := by
  rw [all?]
  induction xs with
  | nil => rfl
  | cons x xs ih =>
    rw [List.forall_mem_cons] at h
    rw [List.map_cons, List.mapM_cons, h.1, ih h.2]
    rfl

theorem texts?_array_map (texts : List String) : texts? (array (texts.map string)) = some texts :=
  all?_array_map fun _ _ => rfl

/-! ### What can be printed -/

theorem isPrintable_array_map {α : Type} {write : α → Json} {xs : List α}
    (h : ∀ x ∈ xs, (write x).IsPrintable) : (array (xs.map write)).IsPrintable := by
  refine .array fun item hitem => ?_
  obtain ⟨x, hx, rfl⟩ := List.mem_map.1 hitem
  exact h x hx

theorem isPrintable_ofMembers {members : List (String × Json)}
    (h : ∀ m ∈ members, m.2.IsPrintable) : (ofMembers members).IsPrintable := by
  refine .object (fun m hm => ?_) fun m hm => ?_
  all_goals obtain ⟨key, value, hmem, rfl⟩ := mem_keyed_iff.1 hm
  · rfl
  · exact h _ hmem

/-! ### Depth -/

theorem itemsReadable_iff {items : List Json} :
    itemsReadable items = true ↔ ∀ item ∈ items, item.isReadable = true := by
  induction items with
  | nil => simp [itemsReadable]
  | cons item items ih => simp [itemsReadable, ih]

theorem itemsDepth_le_iff {items : List Json} {n : Nat} :
    itemsDepth items ≤ n ↔ ∀ item ∈ items, item.depth ≤ n := by
  induction items with
  | nil => simp [itemsDepth]
  | cons item items ih => rw [itemsDepth, Nat.max_le, ih, List.forall_mem_cons]

theorem membersReadable_iff {members : List (String × Json)} :
    membersReadable (keyed members) = true ↔ ∀ m ∈ members, m.2.isReadable = true := by
  induction members with
  | nil => simp [keyed, membersReadable]
  | cons m members ih =>
    rw [keyed_cons, membersReadable, Option.isSome_some, Bool.true_and, Bool.and_eq_true, ih,
      List.forall_mem_cons]

theorem membersDepth_le_iff {members : List (String × Json)} {n : Nat} :
    membersDepth (keyed members) ≤ n ↔ ∀ m ∈ members, m.2.depth ≤ n := by
  induction members with
  | nil => simp [keyed, membersDepth]
  | cons m members ih =>
    rw [keyed_cons, membersDepth, Nat.max_le, ih, List.forall_mem_cons]

end Json

namespace ReadingMode

open Json

@[simp] theorem inside_depth (mode : ReadingMode) (levels : Nat) :
    (mode.inside levels).depth = mode.depth - levels := rfl

/-- Further in, as many levels less are left. -/
theorem le_inside_depth {mode : ReadingMode} {levels n : Nat} (h : levels + n ≤ mode.depth) :
    n ≤ (mode.inside levels).depth :=
  Nat.le_sub_of_add_le' h

theorem admits_iff {mode : ReadingMode} {value : Json} :
    mode.admits value = true ↔ value.isReadable = true ∧ value.depth ≤ mode.depth := by
  simp [admits]

@[simp] theorem admits_string (mode : ReadingMode) (text : String) :
    mode.admits (.string text) = true := by
  simp [admits_iff, isReadable, Json.depth]

@[simp] theorem admits_bool (mode : ReadingMode) (b : Bool) : mode.admits (.bool b) = true := by
  simp [admits_iff, isReadable, Json.depth]

/-- An array is taken in when its items are, one level further in. -/
theorem admits_array {mode : ReadingMode} {items : List Json} :
    mode.admits (.array items) = true ↔
      1 ≤ mode.depth ∧ ∀ item ∈ items, (mode.inside 1).admits item = true := by
  simp only [admits_iff, isReadable, Json.depth, inside_depth, itemsReadable_iff, forall_and]
  have hdepth : itemsDepth items + 1 ≤ mode.depth ↔
      1 ≤ mode.depth ∧ itemsDepth items ≤ mode.depth - 1 := by omega
  rw [hdepth, itemsDepth_le_iff, and_left_comm]

theorem admits_array_map {α : Type} {mode : ReadingMode} (hdepth : 1 ≤ mode.depth)
    {write : α → Json} {xs : List α} (h : ∀ x ∈ xs, (mode.inside 1).admits (write x) = true) :
    mode.admits (.array (xs.map write)) = true := by
  refine admits_array.2 ⟨hdepth, fun item hitem => ?_⟩
  obtain ⟨x, hx, rfl⟩ := List.mem_map.1 hitem
  exact h x hx

/-- An object of members is taken in when its values are, one level further in. -/
theorem admits_ofMembers {mode : ReadingMode} {members : List (String × Json)} :
    mode.admits (.ofMembers members) = true ↔
      1 ≤ mode.depth ∧ ∀ m ∈ members, (mode.inside 1).admits m.2 = true := by
  simp only [admits_iff, ofMembers_eq, isReadable, Json.depth, inside_depth, membersReadable_iff,
    forall_and]
  have hdepth (n : Nat) : n + 1 ≤ mode.depth ↔ 1 ≤ mode.depth ∧ n ≤ mode.depth - 1 := by omega
  rw [hdepth, membersDepth_le_iff, and_left_comm]

end ReadingMode

end CompilerHints
