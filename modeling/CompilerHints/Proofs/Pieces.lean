import CompilerHints.Artifact

/-!
# Cutting a text at its line feeds

* `Text.pieces`: a text cut after each line feed, without the line feeds.
* `Text.pieces_joinLines`: lines that were written one after the other, if none has a line feed.
* `Text.length_pieces_joinLines`: every line feed inside a line makes one more piece.
* `Text.lines_of_not_mem`: a text without line feeds is a single line.
-/

namespace CompilerHints

namespace Text

/-- The pieces of characters between line feeds. What follows the last line feed is a piece too,
unless it is empty. -/
def piecesOf : List Char → List (List Char)
  | [] => []
  | c :: rest =>
    if c = '\n' then [] :: piecesOf rest
    else
      match piecesOf rest with
      | [] => [[c]]
      | piece :: more => (c :: piece) :: more

/-- The pieces of a text, which is cut after each line feed, without the line feeds. -/
def pieces (text : String) : List String :=
  (piecesOf text.toList).map String.ofList

theorem piecesOf_append {piece : List Char} (h : '\n' ∉ piece) (rest : List Char) :
    piecesOf (piece ++ '\n' :: rest) = piece :: piecesOf rest := by
  induction piece with
  | nil => rw [List.nil_append, piecesOf, if_pos rfl]
  | cons c piece ih =>
    rw [List.mem_cons, not_or] at h
    rw [List.cons_append, piecesOf, if_neg (Ne.symm h.1), ih h.2]

theorem length_piecesOf_append (line rest : List Char) :
    (piecesOf (line ++ '\n' :: rest)).length =
      line.count '\n' + 1 + (piecesOf rest).length := by
  induction line with
  | nil =>
    rw [List.nil_append, piecesOf, if_pos rfl, List.length_cons, List.count_nil]
    omega
  | cons c line ih =>
    rw [List.cons_append, piecesOf]
    by_cases hc : c = '\n'
    · rw [if_pos hc, List.length_cons, ih, hc, List.count_cons_self]
      omega
    · rw [if_neg hc, List.count_cons_of_ne hc]
      cases hp : piecesOf (line ++ '\n' :: rest) with
      | nil =>
        rw [hp, List.length_nil] at ih
        omega
      | cons piece more =>
        rw [hp] at ih
        exact ih

theorem toList_joinLines_cons (line : String) (rest : List String) :
    (joinLines (line :: rest)).toList = line.toList ++ '\n' :: (joinLines rest).toList := by
  rw [joinLines_cons, String.toList_append, String.toList_append, List.append_assoc]
  rfl

/-- Lines without line feeds are found again. -/
theorem pieces_joinLines {lines : List String} (h : ∀ line ∈ lines, '\n' ∉ line.toList) :
    pieces (joinLines lines) = lines := by
  induction lines with
  | nil => rfl
  | cons line lines ih =>
    rw [pieces, toList_joinLines_cons, piecesOf_append (h line List.mem_cons_self), List.map_cons,
      String.ofList_toList, ← pieces, ih fun l m => h l (List.mem_cons_of_mem _ m)]

/-- Every line feed inside a line makes one more piece. -/
theorem length_pieces_joinLines (lines : List String) :
    (pieces (joinLines lines)).length =
      lines.length + (lines.flatMap String.toList).count '\n' := by
  induction lines with
  | nil => rfl
  | cons line lines ih =>
    rw [pieces, List.length_map] at ih ⊢
    rw [toList_joinLines_cons, length_piecesOf_append, ih, List.length_cons, List.flatMap_cons,
      List.count_append]
    omega

/-- There are as many pieces as lines only if no line has a line feed inside. -/
theorem length_pieces_joinLines_eq_iff {lines : List String} :
    (pieces (joinLines lines)).length = lines.length ↔ ∀ line ∈ lines, '\n' ∉ line.toList := by
  rw [length_pieces_joinLines, Nat.add_eq_left, List.count_eq_zero, List.mem_flatMap]
  simp only [not_exists, not_and]

/-- A text without line feeds is a single line: a carriage return alone does not end one. -/
theorem cutLines_of_not_mem {cs : List Char} (hne : cs ≠ []) (h : '\n' ∉ cs) :
    cutLines cs = [cs] := by
  fun_induction cutLines cs with
  | case1 => exact absurd rfl hne
  | case2 rest => exact absurd List.mem_cons_self h
  | case3 rest => exact absurd (List.mem_cons_of_mem _ List.mem_cons_self) h
  | case4 c rest _ _ hcut ih =>
    by_cases hrest : rest = []
    · rw [hrest]
    · rw [ih hrest fun m => h (List.mem_cons_of_mem c m)] at hcut
      cases hcut
  | case5 c rest _ _ line more hcut ih =>
    by_cases hrest : rest = []
    · rw [hrest] at hcut
      cases hcut
    · rw [ih hrest fun m => h (List.mem_cons_of_mem c m)] at hcut
      cases hcut
      rfl

theorem lines_of_not_mem {text : String} (hne : text ≠ "") (h : '\n' ∉ text.toList) :
    lines text = [text] := by
  have hcs : text.toList ≠ [] := fun e => hne (String.toList_inj.1 e)
  rw [lines, cutLines_of_not_mem hcs h, List.map_singleton, String.ofList_toList]

/-- Texts of lines without line feeds tell the lines. -/
theorem joinLines_inj {a b : List String} (ha : ∀ line ∈ a, '\n' ∉ line.toList)
    (hb : ∀ line ∈ b, '\n' ∉ line.toList) : joinLines a = joinLines b ↔ a = b := by
  refine ⟨fun h => ?_, fun h => by rw [h]⟩
  rw [← pieces_joinLines ha, h, pieces_joinLines hb]

end Text

end CompilerHints
