import CompilerHints.Line
import CompilerHints.Text.Utf8

/-!
# Command sets

The lines of an artifact without repetition, in an order that does not depend on how they came in:
`quiet` first if anyone asked for it, then the other lines in ascending byte order. The same set
gathers the directives of a build unit and the lines of its fragments.

* `CommandSet.insert`, `CommandSet.insertText`, `CommandSet.markQuiet`: adding, with the answer
  whether anything was new.
* `CommandSet.finalize`: the lines in order.
* `CommandSet.length_finalize`: there are as many of them as the size says.
-/

namespace CompilerHints

open Text

/-- The lines other than `quiet`, and whether `quiet` was asked for. -/
structure CommandSet where
  /-- The lines other than `quiet`. -/
  lines : Std.ExtTreeSet String byteOrder := ∅
  /-- Whether any scope asked for `quiet`. -/
  quiet : Bool := false
deriving DecidableEq

namespace CommandSet

/-- The set without lines. -/
def empty : CommandSet := {}

/-- Notes that `quiet` was asked for; the answer is whether that is new. -/
def markQuiet (s : CommandSet) : Bool × CommandSet :=
  (!s.quiet, { s with quiet := true })

/-- Adds a text as a line of its own; the answer is whether it is new. -/
def addLine (s : CommandSet) (text : String) : Bool × CommandSet :=
  (!s.lines.contains text, { s with lines := s.lines.insert text })

/-- Adds a text that was read back from a fragment. The text `quiet` is no line of its own. -/
def insertText (s : CommandSet) (text : String) : Bool × CommandSet :=
  if text = quietText then s.markQuiet else s.addLine text

/-- Adds a rendered line. -/
def insert (s : CommandSet) (line : Line) : Bool × CommandSet :=
  if line.isQuiet then s.markQuiet else s.addLine line.text

/-- The number of lines in the artifact. -/
def size (s : CommandSet) : Nat :=
  s.lines.size + if s.quiet then 1 else 0

/-- Whether nothing was added. -/
def isEmpty (s : CommandSet) : Bool :=
  s.size == 0

/-- The lines of the artifact in order. -/
def finalize (s : CommandSet) : List String :=
  if s.quiet then quietText :: s.lines.toList else s.lines.toList

@[simp] theorem length_finalize (s : CommandSet) : s.finalize.length = s.size := by
  unfold finalize size
  split <;> simp [Std.ExtTreeSet.length_toList]

end CommandSet

end CompilerHints
