import CompilerHints.Text.Blank
import CompilerHints.Text.Numeric

/-!
# Type shapes

The erased type of a parameter or a result: a primitive, nothing at all, an array, or a class or
interface known by its dotted name.

* `Primitive`, `Shape`: the types.
* `Shape.signature`: the code of a shape inside a member's signature.
* `Shape.spelling`: the source spelling, such as `java.util.List[]`.
* `Shape.parse`: reading a spelling, with blanks allowed around the base and the array marks.
-/

namespace CompilerHints

open Text

/-- The eight primitive value types. -/
inductive Primitive where
  | boolean
  | short
  | int
  | long
  | float
  | double
  | char
  | byte
deriving DecidableEq, Repr

namespace Primitive

/-- All primitives. -/
def all : List Primitive :=
  [boolean, short, int, long, float, double, char, byte]

/-- The letter that stands for a primitive in a signature. -/
def code : Primitive → Char
  | boolean => 'Z'
  | short => 'S'
  | int => 'I'
  | long => 'J'
  | float => 'F'
  | double => 'D'
  | char => 'C'
  | byte => 'B'

/-- The source keyword of a primitive. -/
def keyword : Primitive → String
  | boolean => "boolean"
  | short => "short"
  | int => "int"
  | long => "long"
  | float => "float"
  | double => "double"
  | char => "char"
  | byte => "byte"

/-- The primitive with a given keyword. -/
def ofKeyword? (keyword : String) : Option Primitive :=
  all.find? fun p => p.keyword == keyword

@[simp] theorem ofKeyword?_keyword (p : Primitive) : ofKeyword? p.keyword = some p := by
  cases p <;> rfl

theorem ofKeyword?_eq_some {keyword : String} {p : Primitive}
    (h : ofKeyword? keyword = some p) : keyword = p.keyword := by
  rw [ofKeyword?, List.find?_eq_some_iff_append] at h
  exact (beq_iff_eq.1 h.1).symm

end Primitive

/-- The erased type of a parameter or a result. -/
inductive Shape where
  /-- A primitive value type. -/
  | primitive (kind : Primitive)
  /-- No value. -/
  | void
  /-- An array of elements of one shape. -/
  | array (element : Shape)
  /-- A class or interface, by its dotted name. -/
  | reference (name : String)
deriving DecidableEq, Repr, Inhabited

namespace Shape

/-- The code of a shape inside a signature. References keep the dots of their names. -/
def signature : Shape → String
  | primitive kind => String.singleton kind.code
  | void => "V"
  | array element => "[" ++ element.signature
  | reference name => "L" ++ name ++ ";"

/-- The source spelling of a shape. -/
def spelling : Shape → String
  | primitive kind => kind.keyword
  | void => "void"
  | array element => element.spelling ++ "[]"
  | reference name => name

/-- An array of arrays, `depth` levels around a shape. -/
def arrays : Nat → Shape → Shape
  | 0, shape => shape
  | depth + 1, shape => array (arrays depth shape)

/-- The number of array levels of a shape. -/
def dimensions : Shape → Nat
  | array element => element.dimensions + 1
  | _ => 0

/-- What is left of a shape when all array levels are taken off. -/
def innermost : Shape → Shape
  | array element => element.innermost
  | shape => shape

theorem arrays_dimensions_innermost (shape : Shape) :
    arrays shape.dimensions shape.innermost = shape := by
  induction shape with
  | array element ih => rw [dimensions, innermost, arrays, ih]
  | _ => rfl

/-! ### Reading a spelling -/

/-- Whether a character may begin a part of a dotted name. -/
def isNameStart (c : Char) : Bool :=
  isAlphabetic c || c == '_' || c == '$'

/-- Whether a character may follow in a part of a dotted name. -/
def isNameRest (c : Char) : Bool :=
  isAlphanumeric c || c == '_' || c == '$'

/-- Whether characters continue a dotted name. The flag tells whether a part is to begin, which it
has to before a name can end. -/
def continuesName : Bool → List Char → Bool
  | atStart, [] => !atStart
  | true, c :: rest => isNameStart c && continuesName false rest
  | false, c :: rest =>
    if c == '.' then continuesName true rest else isNameRest c && continuesName false rest

/-- Whether a text is a dotted name: parts between dots, each of them a letter, `_` or `$` followed
by letters, numbers, `_` and `$`. -/
def isDottedName (text : String) : Bool :=
  continuesName true text.toList

/-- Takes array marks and the blanks around them off the end of characters given in reverse: the
number of marks, and what is left, still in reverse. -/
def takeMarks : List Char → Nat × List Char
  | [] => (0, [])
  | ']' :: '[' :: rest => ((takeMarks rest).1 + 1, (takeMarks rest).2)
  | c :: rest => if isBlank c then takeMarks rest else (0, c :: rest)

/-- The shape that a base without array marks and blanks spells. -/
def ofBase? (base : String) : Option Shape :=
  if base = "void" then some void
  else
    match Primitive.ofKeyword? base with
    | some kind => some (primitive kind)
    | none => if isDottedName base then some (reference base) else none

/-- The shape that a text spells. There is no array of `void`. -/
def ofSpelling? (text : String) : Option Shape :=
  let (depth, base) := takeMarks text.toList.reverse
  match ofBase? (String.ofList (trimFront base.reverse)) with
  | some void => if depth = 0 then some void else none
  | some shape => some (arrays depth shape)
  | none => none

end Shape

/-- A text that spells no shape. -/
structure ShapeError where
  /-- The text without the blanks at its ends. -/
  input : String
deriving DecidableEq, Repr

/-- The wording of the error. -/
def ShapeError.message (e : ShapeError) : String :=
  "invalid type shape: '" ++ e.input ++ "'"

/-- Reads the spelling of a shape. -/
def Shape.parse (text : String) : Except ShapeError Shape :=
  match ofSpelling? text with
  | some shape => .ok shape
  | none => .error ⟨trim text⟩

end CompilerHints
