import CompilerHints.Text.Utf8

/-!
# Paths

A path is kept as it was written; its components are read off the text.

* `Path.join`: a path seen from another one.
* `Path.parent?`: a path without its last component.
* `Path.steps`: what a file system follows, one step after the other.
* `Path.components`: the steps that matter for where a path leads, as a path is compared.
-/

namespace CompilerHints

/-- A path as it was written. -/
structure Path where
  text : String
deriving DecidableEq, Repr

/-- One step of a path. -/
inductive Component where
  /-- To the root of the file system. -/
  | root
  /-- To the same directory. -/
  | current
  /-- To the directory above. -/
  | parent
  /-- To an entry of the directory. -/
  | child (name : String)
deriving DecidableEq, Repr

/-- The pieces of a text between slashes, empty ones included. -/
def splitSlashes : List Char → List (List Char)
  | [] => [[]]
  | c :: rest =>
    if c = '/' then [] :: splitSlashes rest
    else
      match splitSlashes rest with
      | [] => [[c]]
      | piece :: more => (c :: piece) :: more

/-- Pieces with slashes between them. -/
def joinSlashes : List (List Char) → List Char
  | [] => []
  | [piece] => piece
  | piece :: more => piece ++ '/' :: joinSlashes more

/-- The step that a piece between slashes stands for; an empty piece stands for none. -/
def Component.ofPiece? (piece : List Char) : Option Component :=
  if piece = [] then none
  else if piece = ['.'] then some current
  else if piece = ['.', '.'] then some parent
  else some (child (String.ofList piece))

namespace Path

/-- Whether a path begins at the root. -/
def isAbsolute (p : Path) : Bool :=
  p.text.toList.head? == some '/'

/-- Whether a path ends in a slash, and so asks for a directory. -/
def endsInSlash (p : Path) : Bool :=
  p.text.toList.getLast? == some '/'

/-- A path seen from a base. An absolute path stands for itself. -/
def join (base p : Path) : Path :=
  if p.isAbsolute then p
  else if base.text = "" || base.endsInSlash then ⟨base.text ++ p.text⟩
  else ⟨base.text ++ "/" ++ p.text⟩

/-- All steps of a path in order. -/
def steps (p : Path) : List Component :=
  let inner := (splitSlashes p.text.toList).filterMap Component.ofPiece?
  if p.isAbsolute then .root :: inner else inner

/-- The steps of a path without those to the same directory, except at the very beginning. -/
def components (p : Path) : List Component :=
  match p.steps with
  | .current :: rest => .current :: rest.filter (· ≠ .current)
  | rest => rest.filter (· ≠ .current)

/-- A text cut into what a path begins with, the root or the directory it is in, and the rest. -/
def cutHead : List Char → List Char × List Char
  | '/' :: rest => (['/'], rest)
  | ['.'] => (['.'], [])
  | '.' :: '/' :: rest => (['.'], '/' :: rest)
  | cs => ([], cs)

/-- Whether a piece between slashes, not at the beginning, leads nowhere. -/
def isIdle (piece : List Char) : Bool :=
  piece == [] || piece == ['.']

/-- A path without its last component. The root and the empty path have nothing above them. -/
def parent? (p : Path) : Option Path :=
  let (head, body) := cutHead p.text.toList
  match (splitSlashes body).reverse.dropWhile isIdle with
  | [] => if head = ['.'] then some ⟨""⟩ else none
  | _ :: above => some ⟨String.ofList (head ++ joinSlashes (above.dropWhile isIdle).reverse)⟩

/-- The longest path that the system takes, in bytes. -/
def maxLength : Nat := 4095

/-- Whether the system takes a path at all: it is not too long and has no NUL in it. -/
def isUsable (p : Path) : Bool :=
  decide (p.text.utf8ByteSize ≤ maxLength) && !p.text.toList.contains '\x00'

/-- Whether an entry of a directory can be reached by a path through the directory. The entry may
be there, and the path to it be too long. -/
def reaches (dir : Path) (name : String) : Bool :=
  (dir.join ⟨name⟩).isUsable

end Path

end CompilerHints
