import CompilerHints.Text.Numeric
import CompilerHints.Text.Quoted
import CompilerHints.Text.Utf16

/-!
# Fragment names

The file name under which a line is kept in an incremental build is made from the line's keyword
and descriptor. Letters, numbers, `.`, `_` and `-` are kept; any other character gives way to the
hexadecimal digits of its UTF-16 units, with nothing between them.

* `fragmentName`: the name for a keyword and a descriptor.
* `fragmentName_eq`: the keyword and a hyphen, then the descriptor, character by character.
-/

namespace CompilerHints

open Text

/-- Whether a character stands for itself in a fragment name. -/
def keptInName (c : Char) : Bool :=
  isAlphanumeric c || c == '.' || c == '_' || c == '-'

/-- What a character contributes to a fragment name. -/
def nameCode (c : Char) : List Char :=
  if keptInName c then [c] else (utf16Units c).flatMap fun unit => hexDigits unit.toNat

/-- A text with every character replaced by its contribution to a fragment name. -/
def nameCodes (text : String) : List Char :=
  text.toList.flatMap nameCode

/-- The fragment name for a keyword and a descriptor. -/
def fragmentName (keyword descriptor : String) : String :=
  String.ofList (nameCodes (keyword ++ "-" ++ descriptor))

theorem nameCodes_append (a b : String) : nameCodes (a ++ b) = nameCodes a ++ nameCodes b := by
  simp [nameCodes]

theorem fragmentName_eq (keyword descriptor : String) :
    fragmentName keyword descriptor =
      String.ofList (nameCodes keyword ++ '-' :: nameCodes descriptor) := by
  rw [fragmentName, nameCodes_append, nameCodes_append, List.append_assoc]
  have : nameCodes "-" = ['-'] := by
    have h : "-".toList = ['-'] := rfl
    simp [nameCodes, nameCode, keptInName, h]
  rw [this]
  rfl

end CompilerHints
