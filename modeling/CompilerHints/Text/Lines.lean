/-!
# Lines of a text

A line ends with a line feed, or with a carriage return and a line feed; what follows the last of
them is a line too, unless it is empty.

* `lines`: the lines of a text without their ends.
* `joinLines`: lines written one after the other, each ended by a line feed.
-/

namespace CompilerHints.Text

/-- The lines of a sequence of characters. A carriage return counts as part of a line's end only
directly before a line feed. -/
def cutLines : List Char → List (List Char)
  | [] => []
  | '\n' :: rest => [] :: cutLines rest
  | '\r' :: '\n' :: rest => [] :: cutLines rest
  | c :: rest =>
    match cutLines rest with
    | [] => [[c]]
    | line :: more => (c :: line) :: more

/-- The lines of a text without their ends. -/
def lines (text : String) : List String :=
  (cutLines text.toList).map String.ofList

/-- Lines written one after the other, each ended by a line feed. -/
def joinLines : List String → String
  | [] => ""
  | line :: rest => line ++ "\n" ++ joinLines rest

@[simp] theorem joinLines_nil : joinLines [] = "" := rfl

@[simp] theorem joinLines_cons (line : String) (rest : List String) :
    joinLines (line :: rest) = line ++ "\n" ++ joinLines rest := rfl

theorem joinLines_append (a b : List String) : joinLines (a ++ b) = joinLines a ++ joinLines b := by
  induction a with
  | nil => simp
  | cons line rest ih => simp [ih, String.append_assoc]

end CompilerHints.Text
