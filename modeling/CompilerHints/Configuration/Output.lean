import CompilerHints.Configuration.Basic

/-!
# Outputs

Settings together with the directory that compiled classes go to say where results are written.

* `Output`: an artifact or a fragments directory, with the charset.
* `Configuration.resolve`: the output of settings below a root.
* `OutputRoot`: a root that need not be a text, and what settings put below it.
-/

namespace CompilerHints

/-- Where results go. -/
inductive Destination where
  /-- One artifact, written at the end. -/
  | artifact (path : Path)
  /-- A fragment for each directive, written as it is accepted. -/
  | fragments (dir : Path)
deriving DecidableEq, Repr

/-- Where results go, and the charset of an artifact. -/
structure Output where
  destination : Destination
  charset : Charset
deriving DecidableEq, Repr

/-- The output of settings below a root. An absolute fragments directory stands for itself. -/
def Configuration.resolve (c : Configuration) (root : Path) : Output where
  destination :=
    match c.fragmentsPath? with
    | some dir => .fragments (root.join ⟨dir⟩)
    | none => .artifact (root.join ⟨c.outputPath⟩)
  charset := c.charset

/-- A root as it is given. The names of directories need not be texts, but paths are texts here: if
the root is none, its path is a text that stands for it. -/
structure OutputRoot where
  path : Path
  /-- Whether the root is a text. -/
  isText : Bool := true
deriving DecidableEq, Repr

/-- Whether the place of the output below a root is a text. An absolute fragments directory stands
for itself, whatever the root. -/
def Configuration.isTextBelow (c : Configuration) (root : OutputRoot) : Bool :=
  root.isText || c.fragmentsPath?.any fun dir => (Path.mk dir).isAbsolute

end CompilerHints
